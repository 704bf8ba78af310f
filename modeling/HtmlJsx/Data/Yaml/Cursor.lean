import HtmlJsx.Fault
import HtmlJsx.Text.Basic

/-!
# Places in a YAML document

The meaning of a YAML document depends on columns and lines, so its readers
carry a cursor: the characters that remain together with the place where
they begin.
-/

namespace HtmlJsx.Yaml

/-- Why a document cannot be read. -/
inductive Failure where
  /-- The document is not well formed, or denotes nothing. -/
  | malformed
  /-- A value of the document cannot be made. -/
  | fault (fault : Fault)
  deriving Repr, DecidableEq

/-- A malformed document. -/
def malformed {α : Type} : Except Failure α := .error .malformed

/-- Whether a character ends a line. -/
def isBreak (c : Char) : Bool :=
  c == '\n' || c == '\r' || c == '\u0085' || c == '\u2028' || c == '\u2029'

/-- Whether a character is a space, a tab, or ends a line. -/
def isGap (c : Char) : Bool :=
  c == ' ' || c == '\t' || isBreak c

/-- Whether a text is at its end or begins with a character of a class. -/
def endsOr (isMember : Char → Bool) : Text → Bool
  | [] => true
  | c :: _ => isMember c

/-- Whether a word ends where a text begins. -/
def atGap (text : Text) : Bool := endsOr isGap text

/-- Whether a line ends where a text begins. -/
def atBreak (text : Text) : Bool := endsOr isBreak text

/-- Whether a space or the end of the line stands where a text begins. -/
def atSpaceOrBreak (text : Text) : Bool := endsOr (fun c => c == ' ' || isBreak c) text

/-- Whether a text begins with a mark between documents. -/
def atDocumentMark (text : Text) : Bool :=
  ("---".toList.isPrefixOf text || "...".toList.isPrefixOf text) && atGap (text.drop 3)

/-- The characters that remain and the place where they begin. -/
structure Cursor where
  rest : Text
  index : Nat := 0
  line : Nat := 0
  column : Nat := 0

namespace Cursor

/-- Pass over one character. -/
def advance (cursor : Cursor) : Cursor :=
  match cursor.rest with
  | [] => cursor
  | c :: rest =>
    if isBreak c && !(c == '\r' && rest.head? == some '\n') then
      { rest, index := cursor.index + 1, line := cursor.line + 1, column := 0 }
    else if c == '\ufeff' then
      { cursor with rest, index := cursor.index + 1 }
    else
      { cursor with rest, index := cursor.index + 1, column := cursor.column + 1 }

/-- Pass over a number of characters. -/
def skip : Nat → Cursor → Cursor
  | 0, cursor => cursor
  | count + 1, cursor => skip count cursor.advance

/-- The characters of a class that come next. -/
def run (isMember : Char → Bool) (cursor : Cursor) : Text :=
  cursor.rest.takeWhile isMember

/-- Pass over the characters of a class. -/
def skipRun (isMember : Char → Bool) (cursor : Cursor) : Cursor :=
  cursor.skip (cursor.run isMember).length

/-- Pass over spaces. -/
def skipSpaces (cursor : Cursor) : Cursor :=
  cursor.skipRun (· == ' ')

/-- Pass over a comment, if one comes next. -/
def skipComment (cursor : Cursor) : Cursor :=
  match cursor.rest with
  | '#' :: _ => cursor.skipRun fun c => !isBreak c
  | _ => cursor

/-- Read a line break; nothing is read if none comes next. -/
def lineBreak (cursor : Cursor) : Text × Cursor :=
  match cursor.rest with
  | '\r' :: '\n' :: _ => (['\n'], cursor.skip 2)
  | c :: _ =>
    if c == '\u2028' || c == '\u2029' then ([c], cursor.advance)
    else if isBreak c then (['\n'], cursor.advance)
    else ([], cursor)
  | [] => ([], cursor)

/-- Pass over the rest of a line that holds nothing but space and a comment. -/
def finishLine (cursor : Cursor) : Except Failure Cursor :=
  let ready := cursor.skipSpaces.skipComment
  if atBreak ready.rest then .ok ready.lineBreak.2 else malformed

end Cursor

end HtmlJsx.Yaml
