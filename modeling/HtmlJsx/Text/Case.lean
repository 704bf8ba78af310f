import HtmlJsx.Text.Basic
import HtmlJsx.Text.CaseTable

/-!
# Letter case

The full case mappings of texts.  A character may have several characters
as its counterpart: the upper case of `ß` is `SS`, the lower case of `İ` is
`i` with a combining dot.  The capital sigma has two lower-case forms: at
the end of a word, that is after a letter and not before one, it becomes
`ς`, elsewhere `σ`.
-/

namespace HtmlJsx.Text

/-- The counterpart that a range of characters gives to one of its members. -/
def CaseRange.image? (range : CaseRange) (code : Nat) : Option Nat :=
  if range.first ≤ code ∧ code ≤ range.last ∧ (code - range.first) % range.stride = 0 then
    some (range.image + (code - range.first))
  else
    none

/-- The counterpart of a character under a list of ranges, the character itself by default. -/
def mapCase (ranges : List CaseRange) (c : Char) : Char :=
  match ranges.findSome? (·.image? c.toNat) with
  | some code => Char.ofNat code
  | none => c

/-- Whether a code point lies in one of the given ranges. -/
def inRanges (ranges : List (Nat × Nat)) (c : Char) : Bool :=
  ranges.any fun range => range.1 ≤ c.toNat && c.toNat ≤ range.2

/-- Whether the first character that a search does not skip is a letter with case. -/
def meetsCased (text : Text) : Bool :=
  match text.dropWhile (inRanges caseIgnorableRanges) with
  | [] => false
  | c :: _ => inRanges casedRanges c

/-- The lower case of one character, given what stands before it (nearest first) and after it. -/
def lowerChar (before after : Text) (c : Char) : Text :=
  if c.toNat < 128 then
    [if c.isUpper then Char.ofNat (c.toNat + 32) else c]
  else if c = 'Σ' then
    [if meetsCased before && !meetsCased after then 'ς' else 'σ']
  else if c = 'İ' then
    ['i', Char.ofNat 0x307]
  else
    [mapCase lowerRanges c]

/-- Lower-case the characters of a text whose predecessors, nearest first, are given. -/
def lowerFrom (before : Text) : Text → Text
  | [] => []
  | c :: rest => lowerChar before rest c ++ lowerFrom (c :: before) rest

/-- The lower case of a text. -/
def lower (text : Text) : Text :=
  lowerFrom [] text

/-- The upper case of one character. -/
def upperChar (c : Char) : Text :=
  if c.toNat < 128 then
    [if c.isLower then Char.ofNat (c.toNat - 32) else c]
  else
    match upperExpansions.lookup c.toNat with
    | some codes => codes.map Char.ofNat
    | none => [mapCase upperRanges c]

/-- The upper case of a text. -/
def upper (text : Text) : Text :=
  text.flatMap upperChar

/-- Whether a character is an ASCII hexadecimal digit in either case. -/
def isHexDigit (c : Char) : Bool :=
  c.isDigit || ('a' ≤ c && c ≤ 'f') || ('A' ≤ c && c ≤ 'F')

/--
Whether a character counts as the given lower-case letter when case is
ignored.  Three letters have relatives outside ASCII: the long `ſ`, the
dotted and dotless `İ` and `ı`, and the Kelvin sign.
-/
def sameLetter (letter c : Char) : Bool :=
  c == letter || (c.isUpper && c.toLower == letter) ||
    (letter == 's' && c == 'ſ') ||
    (letter == 'i' && (c == 'İ' || c == 'ı')) ||
    (letter == 'k' && c.toNat == 0x212A)

/-- What follows a word at the start of a text, ignoring the case of its letters. -/
def afterWord? : Text → Text → Option Text
  | [], text => some text
  | _ :: _, [] => none
  | letter :: word, c :: rest => if sameLetter letter c then afterWord? word rest else none

end HtmlJsx.Text
