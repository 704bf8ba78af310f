import HtmlJsx.Data.Toml.Scalar
import HtmlJsx.Data.Toml.Table

/-!
# TOML documents

A document is a sequence of lines: assignments of values to keys, headers
that open a table or add one to a list, comments and empty lines.  A header
begins a section, to which the assignments after it belong.
-/

namespace HtmlJsx.Toml

/-- Whether a character may stand in a key without quotes. -/
def isBareKeyChar (c : Char) : Bool :=
  c.isAlpha || c.isDigit || c == '-' || c == '_'

/-- Read one part of a key. -/
def keyPart : Reader Text := fun text =>
  match text with
  | [] => malformed
  | c :: rest =>
    if isBareKeyChar c then
      .ok (text.takeWhile isBareKeyChar, text.dropWhile isBareKeyChar)
    else if c = '\'' then
      verbatim rest
    else if c = '"' then
      basic false rest
    else
      malformed

/-- Read a key, its parts separated by points; the fuel bounds their number. -/
def keyFrom : (fuel : Nat) → Reader (List Text)
  | 0, _ => malformed
  | fuel + 1, text => do
    let (part, rest) ← keyPart text
    match skipSpace rest with
    | '.' :: more =>
      let (parts, after) ← keyFrom fuel (skipSpace more)
      return (part :: parts, after)
    | after => return ([part], after)

/-- Read a key and the space after it. -/
def key : Reader (List Text) := fun text =>
  keyFrom (text.length + 1) text

/-- Pass over space, line breaks and comments; the fuel bounds the number of comments. -/
def skipBetween : (fuel : Nat) → Text → Except Failure Text
  | 0, text => .ok text
  | fuel + 1, text =>
    match text.dropWhile isSpaceOrNewline with
    | '#' :: rest => do skipBetween fuel (← skipComment ('#' :: rest))
    | rest => .ok rest

mutual

/-- Read a value.  The fuel bounds the depth and the number of its parts. -/
def value : (fuel : Nat) → Reader Value
  | 0, _ => malformed
  | fuel + 1, text =>
    match text with
    | '"' :: _ => do
      let (content, rest) ← string text
      return (.text content, rest)
    | '\'' :: _ => do
      let (content, rest) ← string text
      return (.text content, rest)
    | '[' :: rest => do items fuel [] (← skipBetween rest.length rest)
    | '{' :: rest =>
      match skipSpace rest with
      | '}' :: after => .ok (.map [], after)
      | first => inlineEntries fuel [] first
    | _ => bareScalar text

/-- Read the items of a list from the start of one of them, or from the closing bracket. -/
def items : (fuel : Nat) → List Value → Reader Value
  | 0, _, _ => malformed
  | fuel + 1, found, text =>
    match text with
    | ']' :: after => .ok (.list found.reverse, after)
    | _ => do
      let (item, rest) ← value fuel text
      match ← skipBetween rest.length rest with
      | ',' :: more => items fuel (item :: found) (← skipBetween more.length more)
      | ']' :: after => return (.list (item :: found).reverse, after)
      | _ => malformed

/-- Read the entries of an inline table from the start of one of them to the closing brace. -/
def inlineEntries : (fuel : Nat) → Entries → Reader Value
  | 0, _, _ => malformed
  | fuel + 1, found, text => do
    let (path, rest) ← key text
    match rest with
    | '=' :: afterEquals =>
      let (item, rest) ← value fuel (skipSpace afterEquals)
      match found.assign 0 item path with
      | none => malformed
      | some known =>
        match skipSpace rest with
        | ',' :: more => inlineEntries fuel known (skipSpace more)
        | '}' :: after => return (.map (Entry.toFields known), after)
        | _ => malformed
    | _ => malformed

end

/-- A document that is being read: its tables, the current header, and the number of headers. -/
structure Draft where
  entries : Entries := []
  header : List Text := []
  sections : Nat := 0

namespace Draft

/-- Begin a section with a change of the table that a header names. -/
def beginSection (draft : Draft) (path : List Text) (change : Text → Entries → Option Entries) :
    Except Failure Draft :=
  match path.getLast? with
  | none => malformed
  | some name =>
    match draft.entries.within (change name) path.dropLast with
    | none => malformed
    | some entries => .ok { entries, header := path, sections := draft.sections + 1 }

/-- Give a value to a key of the current section. -/
def assign (draft : Draft) (path : List Text) (value : Value) : Except Failure Draft :=
  match draft.entries.within (·.assign draft.sections value path) draft.header with
  | none => malformed
  | some entries => .ok { draft with entries }

end Draft

/-- Read one statement, if there is one, at the start of a line. -/
def statement (draft : Draft) (text : Text) : Except Failure (Draft × Text) :=
  match text with
  | '[' :: '[' :: rest => do
    let (path, rest) ← key (skipSpace rest)
    match rest with
    | ']' :: ']' :: after => return (← draft.beginSection path Entries.appendTable, skipSpace after)
    | _ => malformed
  | '[' :: rest => do
    let (path, rest) ← key (skipSpace rest)
    match rest with
    | ']' :: after => return (← draft.beginSection path Entries.openTable, skipSpace after)
    | _ => malformed
  | '#' :: _ => .ok (draft, text)
  | _ => do
    let (path, rest) ← key text
    match rest with
    | '=' :: afterEquals =>
      let (item, rest) ← value (2 * text.length + 2) (skipSpace afterEquals)
      return (← draft.assign path item, skipSpace rest)
    | _ => malformed

/-- Read the lines of a document; the fuel bounds their number. -/
def lines : (fuel : Nat) → Draft → Text → Except Failure Draft
  | 0, draft, _ => .ok draft
  | fuel + 1, draft, text =>
    match skipSpace text with
    | [] => .ok draft
    | '\n' :: rest => lines fuel draft rest
    | start => do
      let (draft, rest) ← statement draft start
      match ← skipComment rest with
      | [] => return draft
      | '\n' :: rest => lines fuel draft rest
      | _ => malformed

/-- Read a document. -/
def document (text : Text) : Except Failure Value := do
  let plain := Text.replace ['\r', '\n'] ['\n'] text
  let draft ← lines (plain.length + 1) {} plain
  return .map (Entry.toFields draft.entries)

end HtmlJsx.Toml
