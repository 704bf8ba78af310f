import HtmlJsx.Number.Spelling
import HtmlJsx.Text.Blank
import HtmlJsx.Text.Digit

/-!
# Numerals

A number as a person types it: blanks around it, a sign, digits of any
script and leading zeros are all accepted.  In an integer a single underscore
may stand between digits, and a base other than ten may be announced by its
mark, such as `0x`.
-/

namespace HtmlJsx.Numeral

/-- Whether a character may stand around a numeral; texts of ASCII characters know fewer blanks. -/
def isOuterBlank (text : Text) (c : Char) : Bool :=
  if text.all fun c => c.toNat < 128 then isAsciiBlank c else isBlank c

/-- A text without the blanks around it. -/
def trim (text : Text) : Text :=
  ((text.dropWhile (isOuterBlank text)).reverse.dropWhile (isOuterBlank text)).reverse

/-- A text with the digits of all scripts written as ASCII digits. -/
def withPlainDigits (text : Text) : Text :=
  text.map fun c => ((Text.digitValue? c).map fun value => Char.ofNat (48 + value)).getD c

/-- The value of a digit in a base up to sixteen. -/
def digitIn? (base : Nat) (c : Char) : Option Nat :=
  if Spelling.isDigitIn base c then some (Binary64.readDigits.digitValue c) else none

/-- The digits of a numeral as values; an underscore stands between two digits. -/
def digits? (base : Nat) : (afterDigit : Bool) → Text → Option (List Nat)
  | afterDigit, [] => if afterDigit then some [] else none
  | afterDigit, c :: rest =>
    if c = '_' then
      if afterDigit then digits? base false rest else none
    else
      match digitIn? base c with
      | some value => (digits? base true rest).map (value :: ·)
      | none => none

/-- A text without the mark of its base and an underscore after that. -/
def dropBaseMark (base : Nat) (text : Text) : Text :=
  match text with
  | '0' :: letter :: rest =>
    if Spelling.baseOf? letter = some base then
      if rest.head? = some '_' then rest.drop 1 else rest
    else
      text
  | _ => text

/-- The integer that a numeral in a base denotes; only decimal digits are limited in number. -/
def valueIn? (base : Nat) (text : Text) : Option Int := do
  let (negative, unsigned) := Spelling.splitSign (withPlainDigits (trim text))
  let digits ← digits? base false (dropBaseMark base unsigned)
  if base = 10 ∧ Spelling.digitLimit < digits.length then none
  else
    let size : Nat := digits.foldl (fun total digit => total * base + digit) 0
    return if negative then -(size : Int) else size

/-- The integer that a decimal numeral denotes. -/
def value? (text : Text) : Option Int := valueIn? 10 text

/-- The number that a numeral without underscores denotes: a decimal, infinity, or a nan. -/
def binary? (text : Text) : Option Binary64 :=
  let spelled := withPlainDigits (trim text)
  let (negative, unsigned) := Spelling.splitSign spelled
  let word := unsigned.map Char.toLower
  if word = "inf".toList ∨ word = "infinity".toList then some (.infinite negative)
  else if word = "nan".toList then some .nan
  else Spelling.decimal? spelled

end HtmlJsx.Numeral
