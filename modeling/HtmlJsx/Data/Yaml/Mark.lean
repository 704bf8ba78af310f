import HtmlJsx.Data.Yaml.Token
import HtmlJsx.Files.Utf8
import HtmlJsx.Number.Spelling
import HtmlJsx.Text.Case

/-!
# Anchors, tags and directives

The parts of a YAML document that say something about nodes rather than
being nodes.
-/

namespace HtmlJsx.Yaml

/-- Whether a character may stand in the name of an anchor, a handle or a directive. -/
def isNameChar (c : Char) : Bool :=
  c.isAlphanum || c == '-' || c == '_'

/-- Whether a character that follows the name of an anchor ends it. -/
def endsAnchor (c : Char) : Bool :=
  isGap c || "?:,]\x7d%@`".toList.contains c

/-- Read the name of an anchor or an alias after its mark. -/
def anchorName (cursor : Cursor) : Except Failure (Text × Cursor) :=
  let name := cursor.run isNameChar
  let after := cursor.skip name.length
  if name.isEmpty || !endsOr endsAnchor after.rest then malformed else .ok (name, after)

/-- Read a tag handle: a name between exclamation marks, or a single one before a space. -/
def tagHandle (cursor : Cursor) : Except Failure (Text × Cursor) :=
  match cursor.rest with
  | '!' :: rest =>
    let name := rest.takeWhile isNameChar
    match rest.drop name.length with
    | '!' :: _ => .ok ('!' :: name ++ ['!'], cursor.skip (name.length + 2))
    | ' ' :: _ => if name.isEmpty then .ok (['!'], cursor.advance) else malformed
    | _ => malformed
  | _ => malformed

/-- Whether a character may stand in a tag. -/
def isTagChar (c : Char) : Bool :=
  c.isAlphanum || "-;/?:@&=+$,_.!~*'()[]".toList.contains c

/-- Read the octets of a run of escapes such as `%C3%A9`. -/
def tagOctets : (fuel : Nat) → List UInt8 → Cursor → Except Failure (List UInt8 × Cursor)
  | 0, found, cursor => .ok (found, cursor)
  | fuel + 1, found, cursor =>
    match cursor.rest with
    | '%' :: first :: second :: _ =>
      if Text.isHexDigit first && Text.isHexDigit second then
        let octet := UInt8.ofNat (Binary64.readDigits 16 [first, second])
        tagOctets fuel (found ++ [octet]) (cursor.skip 3)
      else
        malformed
    | '%' :: _ => malformed
    | _ => .ok (found, cursor)

/-- Read the characters of a tag; the fuel bounds their number. -/
def tagTextFrom : (fuel : Nat) → Text → Cursor → Except Failure (Text × Cursor)
  | 0, found, cursor => .ok (found, cursor)
  | fuel + 1, found, cursor =>
    match cursor.rest with
    | '%' :: _ => do
      let (octets, after) ← tagOctets cursor.rest.length [] cursor
      match Utf8.decode octets with
      | .ok decoded => tagTextFrom fuel (found ++ decoded) after
      | .error _ => malformed
    | c :: _ =>
      if isTagChar c then tagTextFrom fuel (found ++ [c]) cursor.advance else .ok (found, cursor)
    | [] => .ok (found, cursor)

/-- Read the characters of a tag, of which there must be one at least. -/
def tagText (cursor : Cursor) : Except Failure (Text × Cursor) := do
  let (found, after) ← tagTextFrom (cursor.rest.length + 1) [] cursor
  if after.index = cursor.index then malformed else return (found, after)

/-- Read a tag at its exclamation mark. -/
def tag (cursor : Cursor) : Except Failure (Token × Cursor) := do
  let (token, after) ← match cursor.rest with
    | '!' :: '<' :: _ =>
      let (suffix, after) ← tagText (cursor.skip 2)
      match after.rest with
      | '>' :: _ => pure (Token.tag none suffix, after.advance)
      | _ => malformed
    | '!' :: rest =>
      if atGap rest then
        pure (Token.tag none ['!'], cursor.advance)
      else if (rest.takeWhile fun c => !(c == ' ' || isBreak c)).contains '!' then
        let (handle, after) ← tagHandle cursor
        let (suffix, after) ← tagText after
        pure (Token.tag (some handle) suffix, after)
      else
        let (suffix, after) ← tagText cursor.advance
        pure (Token.tag (some ['!']) suffix, after)
    | _ => malformed
  if atSpaceOrBreak after.rest then return (token, after) else malformed

/-- Read a number of a version. -/
def versionNumber (cursor : Cursor) : Except Failure (Nat × Cursor) :=
  let digits := cursor.run Char.isDigit
  if digits.isEmpty then malformed
  else if Spelling.digitLimit < digits.length then .error (.fault .value)
  else .ok (Binary64.readDigits 10 digits, cursor.skip digits.length)

/-- Read the version after the word that announces it. -/
def version (cursor : Cursor) : Except Failure (Directive × Cursor) := do
  let (major, cursor) ← versionNumber cursor.skipSpaces
  match cursor.rest with
  | '.' :: _ =>
    let (minor, cursor) ← versionNumber cursor.advance
    if atSpaceOrBreak cursor.rest then return (.version major minor, cursor) else malformed
  | _ => malformed

/-- Read the handle and the target after the word that announces them. -/
def handle (cursor : Cursor) : Except Failure (Directive × Cursor) := do
  let (name, cursor) ← tagHandle cursor.skipSpaces
  match cursor.rest with
  | ' ' :: _ =>
    let (target, cursor) ← tagText cursor.skipSpaces
    if atSpaceOrBreak cursor.rest then return (.handle name target, cursor) else malformed
  | _ => malformed

/-- Read a directive at its mark, to the end of its line. -/
def directive (cursor : Cursor) : Except Failure (Directive × Cursor) := do
  let start := cursor.advance
  let name := start.run isNameChar
  let after := start.skip name.length
  if name.isEmpty || !atSpaceOrBreak after.rest then
    malformed
  else
    let (directive, after) ←
      if name = "YAML".toList then version after
      else if name = "TAG".toList then handle after
      else pure (Directive.other, after.skipRun fun c => !isBreak c)
    return (directive, ← after.finishLine)

end HtmlJsx.Yaml
