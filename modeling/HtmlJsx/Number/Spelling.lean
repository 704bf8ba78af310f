import HtmlJsx.Number.Binary64
import HtmlJsx.Text.Blank

/-!
# Spellings of integers

An attribute or style value is written without quotes when it spells an
integer: the integer at its start, read as far as its digits go, must equal
the number that the whole text denotes.  So `10`, ` 5 `, `007`, `1.0` and
`1e0` are integers, while `10px`, `1.5` and the empty text are not.
-/

namespace HtmlJsx

/-- Why a spelling cannot be judged. -/
inductive NumberFault where
  /-- The integer at the start has more digits than may be read. -/
  | tooManyDigits
  /-- The text denotes an integer beyond all binary numbers. -/
  | tooLarge
  deriving Repr, DecidableEq

namespace Spelling

/-- The largest number of decimal digits that are read as an integer. -/
def digitLimit : Nat := 4300

/-- Split off a sign; the flag says whether it is negative. -/
def splitSign : Text → Bool × Text
  | '-' :: rest => (true, rest)
  | '+' :: rest => (false, rest)
  | text => (false, text)

/-- The sign and the digits of the integer at the start of a text, after ASCII blanks. -/
def integerStart? (text : Text) : Option (Bool × Text) :=
  let (negative, rest) := splitSign (text.dropWhile isAsciiBlank)
  let digits := rest.takeWhile Char.isDigit
  if digits.isEmpty then none else some (negative, digits)

/-- The value of the exponent part of a decimal, which may be absent; anything else is refused. -/
def exponentPart? : Text → Option Int
  | [] => some 0
  | c :: rest =>
    if c = 'e' ∨ c = 'E' then
      let (negative, digits) := splitSign rest
      if digits.isEmpty || !digits.all Char.isDigit then
        none
      else
        let size : Int := Binary64.readDigits 10 digits
        some (if negative then -size else size)
    else
      none

/-- The number that a decimal literal denotes: sign, digits with an optional point, exponent. -/
def decimal? (text : Text) : Option Binary64 :=
  let (negative, unsigned) := splitSign text
  let whole := unsigned.takeWhile Char.isDigit
  let afterWhole := unsigned.dropWhile Char.isDigit
  let (fraction, rest) :=
    match afterWhole with
    | '.' :: more => (more.takeWhile Char.isDigit, more.dropWhile Char.isDigit)
    | _ => ([], afterWhole)
  if whole.isEmpty && fraction.isEmpty then
    none
  else
    (exponentPart? rest).map fun exponent =>
      Binary64.ofDecimal negative (whole ++ fraction) (exponent - fraction.length)

/-- Whether a character is a digit in a base up to sixteen. -/
def isDigitIn (base : Nat) (c : Char) : Bool :=
  (c.isDigit && c.toNat - 48 < base) ||
    (base == 16 && (('a' ≤ c && c ≤ 'f') || ('A' ≤ c && c ≤ 'F')))

/-- The base that the letter after a leading zero announces. -/
def baseOf? (letter : Char) : Option Nat :=
  if letter = 'x' ∨ letter = 'X' then some 16
  else if letter = 'o' ∨ letter = 'O' then some 8
  else if letter = 'b' ∨ letter = 'B' then some 2
  else none

/-- The natural that a literal with a base denotes, such as `0x1F`. -/
def radix? : Text → Option Nat
  | '0' :: letter :: digits =>
    match baseOf? letter with
    | some base =>
      if digits.isEmpty || !digits.all (isDigitIn base) then none
      else some (Binary64.readDigits base digits)
    | none => none
  | _ => none

/-- The number that a whole text denotes, if any; blank text denotes zero. -/
def value? (text : Text) : Except NumberFault (Option Binary64) :=
  let trimmed := Text.trim text
  if trimmed.isEmpty then
    .ok (some (Binary64.zero false))
  else
    match decimal? trimmed with
    | some number => .ok (some number)
    | none =>
      match radix? trimmed with
      | some natural =>
        let number := Binary64.ofNat false natural
        if number.isFinite then .ok (some number) else .error .tooLarge
      | none => .ok none

/-- Whether a text spells an integer. -/
def isInteger (text : Text) : Except NumberFault Bool :=
  match integerStart? text with
  | none => .ok false
  | some (negative, digits) =>
    match value? text with
    | .error fault => .error fault
    | .ok none => .ok false
    | .ok (some number) =>
      if digitLimit < digits.length then
        .error .tooManyDigits
      else
        let start := Binary64.ofNat negative (Binary64.readDigits 10 digits)
        .ok (start.isFinite && start.same number)

end Spelling

end HtmlJsx
