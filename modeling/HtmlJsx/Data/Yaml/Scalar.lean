import HtmlJsx.Data.Yaml.Cursor
import HtmlJsx.Number.Binary64
import HtmlJsx.Text.Case

/-!
# YAML scalars

Scalars are written plain, between quotes, or as blocks.  Line breaks inside
a scalar are folded: a single one counts as a space, and of several the
first is dropped.  Blocks keep them, or fold those between lines that do not
begin with a space.
-/

namespace HtmlJsx.Yaml

/-! ## Plain scalars -/

/-- Whether a character is a mark inside brackets and braces. -/
def isFlowMark (c : Char) : Bool :=
  c == ',' || c == '[' || c == ']' || c == '{' || c == '}'

/-- The part of a plain scalar up to the next gap or mark. -/
def plainWord (inFlow : Bool) : Text → Text
  | [] => []
  | c :: rest =>
    if isGap c || (c == ':' && (atGap rest || (inFlow && endsOr isFlowMark rest))) ||
        (inFlow && (isFlowMark c || c == '?')) then
      []
    else
      c :: plainWord inFlow rest

/-- What a folded line break stands for, given the line breaks that follow it. -/
def folded (first following : Text) : Text :=
  if first ≠ ['\n'] then first ++ following
  else if following.isEmpty then [' ']
  else following

/-- The space between two words of a plain scalar. -/
structure PlainGap where
  /-- The characters that the space stands for; none if the scalar ends. -/
  content : Text
  cursor : Cursor
  /-- Whether a line has ended. -/
  brokeLine : Bool

/-- Read the line breaks and spaces after a line break; a document mark ends the reading. -/
def plainBreaks : (fuel : Nat) → Text → Cursor → Option Text × Cursor
  | 0, found, cursor => (some found, cursor)
  | fuel + 1, found, cursor =>
    match cursor.rest with
    | ' ' :: _ => plainBreaks fuel found cursor.advance
    | c :: _ =>
      if isBreak c then
        let (lineBreak, after) := cursor.lineBreak
        if atDocumentMark after.rest then (none, after)
        else plainBreaks fuel (found ++ lineBreak) after
      else
        (some found, cursor)
    | [] => (some found, cursor)

/-- Read the space after a word of a plain scalar. -/
def plainGap (cursor : Cursor) : PlainGap :=
  let spaces := cursor.run (· == ' ')
  let after := cursor.skipSpaces
  match after.lineBreak with
  | ([], _) => ⟨spaces, after, false⟩
  | (first, next) =>
    if atDocumentMark next.rest then
      ⟨[], next, true⟩
    else
      match plainBreaks next.rest.length [] next with
      | (some following, cursor) => ⟨folded first following, cursor, true⟩
      | (none, cursor) => ⟨[], cursor, true⟩

/--
Read the words of a plain scalar.  `least` is the least column on which it
may go on outside brackets, and `broke` says whether its last gap ended a
line.
-/
def plainFrom (inFlow : Bool) (least : Int) :
    (fuel : Nat) → (content gap : Text) → (broke : Bool) → Cursor → Text × Bool × Cursor
  | 0, content, _, broke, cursor => (content, broke, cursor)
  | fuel + 1, content, gap, broke, cursor =>
    let word := if cursor.rest.head? == some '#' then [] else plainWord inFlow cursor.rest
    if word.isEmpty then
      (content, broke, cursor)
    else
      let written := content ++ gap ++ word
      let next := plainGap (cursor.skip word.length)
      if next.content.isEmpty || next.cursor.rest.head? == some '#' ||
          (!inFlow && (next.cursor.column : Int) < least) then
        (written, next.brokeLine, next.cursor)
      else
        plainFrom inFlow least fuel written next.content next.brokeLine next.cursor

/-- Read a plain scalar; the flag says whether a line has ended after it. -/
def plain (inFlow : Bool) (least : Int) (cursor : Cursor) : Text × Bool × Cursor :=
  plainFrom inFlow least (cursor.rest.length + 1) [] [] false cursor

/-! ## Quoted scalars -/

/-- The character that a letter after a backslash denotes. -/
def escapedChar? (c : Char) : Option Char :=
  [('0', Char.ofNat 0), ('a', Char.ofNat 7), ('b', Char.ofNat 8), ('t', '\t'), ('\t', '\t'),
    ('n', '\n'), ('v', Char.ofNat 11), ('f', Char.ofNat 12), ('r', '\r'), ('e', Char.ofNat 27),
    (' ', ' '), ('"', '"'), ('\\', '\\'), ('/', '/'), ('N', '\u0085'), ('_', '\u00a0'),
    ('L', '\u2028'), ('P', '\u2029')].lookup c

/-- The number of digits of a code escape. -/
def codeWidth? (c : Char) : Option Nat :=
  [('x', 2), ('u', 4), ('U', 8)].lookup c

/-- The character of a code; half a pair has none and is replaced. -/
def charOfCode (code : Nat) : Except Failure Char :=
  if 0x80000000 ≤ code then .error (.fault .range)
  else if 0x110000 ≤ code then .error (.fault .value)
  else if 0xD800 ≤ code && code ≤ 0xDFFF then .ok (Char.ofNat 0xFFFD)
  else .ok (Char.ofNat code)

/-- Read the line breaks after a line break inside quotes. -/
def quotedBreaks : (fuel : Nat) → Text → Cursor → Except Failure (Text × Cursor)
  | 0, found, cursor => .ok (found, cursor)
  | fuel + 1, found, cursor =>
    if atDocumentMark cursor.rest then
      malformed
    else
      let after := cursor.skipRun fun c => c == ' ' || c == '\t'
      match after.lineBreak with
      | ([], _) => .ok (found, after)
      | (lineBreak, next) => quotedBreaks fuel (found ++ lineBreak) next

/-- Read an escape after its backslash. -/
def quotedEscape (cursor : Cursor) : Except Failure (Text × Cursor) :=
  match cursor.rest with
  | [] => malformed
  | c :: rest =>
    match escapedChar? c, codeWidth? c with
    | some decoded, _ => .ok ([decoded], cursor.advance)
    | none, some width =>
      let digits := rest.take width
      if digits.length = width ∧ digits.all Text.isHexDigit then do
        return ([← charOfCode (Binary64.readDigits 16 digits)], cursor.advance.skip width)
      else
        malformed
    | none, none =>
      if isBreak c then
        let next := cursor.lineBreak.2
        quotedBreaks (next.rest.length + 1) [] next
      else
        malformed

/-- Read the space inside quotes that comes next. -/
def quotedGap (cursor : Cursor) : Except Failure (Text × Cursor) := do
  let spaces := cursor.run fun c => c == ' ' || c == '\t'
  let after := cursor.skip spaces.length
  match after.lineBreak with
  | ([], _) => return (spaces, after)
  | (first, next) =>
    let (following, cursor) ← quotedBreaks (next.rest.length + 1) [] next
    return (folded first following, cursor)

/-- Whether a character has no meaning of its own inside quotes. -/
def isQuotedPlain (c : Char) : Bool :=
  !(isGap c || c == '\'' || c == '"' || c == '\\')

/-- Read a scalar between quotes after the opening one; the fuel bounds its length. -/
def quotedFrom (mark : Char) : (fuel : Nat) → Text → Cursor → Except Failure (Text × Cursor)
  | 0, _, _ => malformed
  | fuel + 1, content, cursor =>
    match cursor.rest with
    | [] => malformed
    | c :: rest =>
      if isQuotedPlain c then
        let word := cursor.run isQuotedPlain
        quotedFrom mark fuel (content ++ word) (cursor.skip word.length)
      else if c == mark then
        if mark == '\'' && rest.head? == some '\'' then
          quotedFrom mark fuel (content ++ ['\'']) (cursor.skip 2)
        else
          .ok (content, cursor.advance)
      else if c == '\\' && mark == '"' then do
        let (decoded, after) ← quotedEscape cursor.advance
        quotedFrom mark fuel (content ++ decoded) after
      else if isGap c then do
        let (gap, after) ← quotedGap cursor
        quotedFrom mark fuel (content ++ gap) after
      else
        quotedFrom mark fuel (content ++ [c]) cursor.advance

/-- Read a scalar between quotes at its opening quote. -/
def quoted (mark : Char) (cursor : Cursor) : Except Failure (Text × Cursor) :=
  quotedFrom mark (cursor.rest.length + 1) [] cursor.advance

/-! ## Block scalars -/

/-- What happens to the line breaks at the end of a block. -/
inductive Chomping where
  | strip
  | clip
  | keep
  deriving Repr, DecidableEq

/-- The chomping that a mark asks for. -/
def chomping? : Text → Option Chomping
  | '+' :: _ => some .keep
  | '-' :: _ => some .strip
  | _ => none

/-- Read the number of columns by which a block is indented; it cannot be zero. -/
def blockIndent? (cursor : Cursor) : Except Failure (Option Nat × Cursor) :=
  match cursor.rest with
  | c :: _ =>
    if c = '0' then malformed
    else if c.isDigit then .ok (some (c.toNat - 48), cursor.advance)
    else .ok (none, cursor)
  | [] => .ok (none, cursor)

/-- Read the marks after the introduction of a block, in either order. -/
def blockHeader (cursor : Cursor) : Except Failure (Chomping × Option Nat × Cursor) := do
  match chomping? cursor.rest with
  | some chomping =>
    let (indent, cursor) ← blockIndent? cursor.advance
    if atSpaceOrBreak cursor.rest then return (chomping, indent, cursor) else malformed
  | none =>
    let (indent, cursor) ← blockIndent? cursor
    let (chomping, cursor) :=
      match indent, chomping? cursor.rest with
      | some _, some chomping => (chomping, cursor.advance)
      | _, _ => (Chomping.clip, cursor)
    if atSpaceOrBreak cursor.rest then return (chomping, indent, cursor) else malformed

/-- Read the empty lines at the start of a block: the breaks and the widest column seen. -/
def blockStart : (fuel : Nat) → Text → (widest : Nat) → Cursor → Text × Nat × Cursor
  | 0, found, widest, cursor => (found, widest, cursor)
  | fuel + 1, found, widest, cursor =>
    match cursor.rest with
    | ' ' :: _ =>
      let next := cursor.advance
      blockStart fuel found (max widest next.column) next
    | _ =>
      match cursor.lineBreak with
      | ([], _) => (found, widest, cursor)
      | (lineBreak, next) => blockStart fuel (found ++ lineBreak) widest next

/-- Pass over spaces up to a column. -/
def skipIndent (indent : Nat) (cursor : Cursor) : Cursor :=
  cursor.skip (min (cursor.run (· == ' ')).length (indent - cursor.column))

/-- Read empty lines inside a block and the indentation of the next line. -/
def blockBreaks (indent : Nat) : (fuel : Nat) → Text → Cursor → Text × Cursor
  | 0, found, cursor => (found, cursor)
  | fuel + 1, found, cursor =>
    let ready := skipIndent indent cursor
    match ready.lineBreak with
    | ([], _) => (found, ready)
    | (lineBreak, next) => blockBreaks indent fuel (found ++ lineBreak) next

/-- Whether a line of a block begins with a space or a tab. -/
def beginsWithSpace : Text → Bool
  | c :: _ => c == ' ' || c == '\t'
  | [] => false

/--
Read the lines of a block; `breaks` are the empty lines before the next one.
The result is the content, the line break after its last line, the empty
lines after that, and the cursor.
-/
def blockLines (folding : Bool) (indent : Nat) :
    (fuel : Nat) → (content breaks : Text) → Cursor → Text × Text × Text × Cursor
  | 0, content, breaks, cursor => (content, [], breaks, cursor)
  | fuel + 1, content, breaks, cursor =>
    let line := cursor.run fun c => !isBreak c
    let written := content ++ breaks ++ line
    let (lineBreak, next) := (cursor.skip line.length).lineBreak
    let (following, after) := blockBreaks indent (next.rest.length + 1) [] next
    if after.column = indent && !after.rest.isEmpty then
      let joint :=
        if folding && lineBreak == ['\n'] && !beginsWithSpace line &&
            !beginsWithSpace after.rest then
          if following.isEmpty then [' '] else []
        else
          lineBreak
      blockLines folding indent fuel (written ++ joint) following after
    else
      (written, lineBreak, following, after)

/-- Read a block after its introduction; `outer` is the indentation around it. -/
def block (folding : Bool) (outer : Int) (cursor : Cursor) : Except Failure (Text × Cursor) := do
  let (chomping, increment, cursor) ← blockHeader cursor
  let first ← cursor.finishLine
  let least := (max (outer + 1) 1).toNat
  let (breaks, indent, start) :=
    match increment with
    | none =>
      let (breaks, widest, start) := blockStart (first.rest.length + 1) [] 0 first
      (breaks, max least widest, start)
    | some increment =>
      let indent := least + increment - 1
      let (breaks, start) := blockBreaks indent (first.rest.length + 1) [] first
      (breaks, indent, start)
  let (content, lineBreak, following, after) :=
    if start.column = indent && !start.rest.isEmpty then
      blockLines folding indent (start.rest.length + 1) [] breaks start
    else
      ([], [], breaks, start)
  let ending := match chomping with
    | .strip => []
    | .clip => lineBreak
    | .keep => lineBreak ++ following
  return (content ++ ending, after)

end HtmlJsx.Yaml
