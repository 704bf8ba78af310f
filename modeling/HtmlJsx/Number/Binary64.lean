import HtmlJsx.Text.Basic

/-!
# Binary floating-point numbers

The numbers of the 64-bit binary format, kept as exact integers: a finite
number is `mantissa * 2 ^ exponent` with its sign.  A mantissa has at most
53 bits and an exponent is at least -1074; a mantissa below `2 ^ 52` occurs
with the least exponent only, so every number has one form.

Ratios of naturals are rounded to the nearest number, halves to the even
mantissa, and what is too large becomes infinite.
-/

namespace HtmlJsx

/-- A number of the 64-bit binary format. -/
inductive Binary64 where
  | nan
  | infinite (negative : Bool)
  | finite (negative : Bool) (mantissa : Nat) (exponent : Int)
  deriving Repr, DecidableEq, Inhabited

namespace Binary64

/-- The quotient rounded to the nearest natural, a half to the even neighbour. -/
def roundedQuotient (numerator denominator : Nat) : Nat :=
  let quotient := numerator / denominator
  let remainder := numerator % denominator
  if 2 * remainder < denominator then quotient
  else if denominator < 2 * remainder then quotient + 1
  else if quotient % 2 = 0 then quotient
  else quotient + 1

/-- Whether a ratio is at least a power of two. -/
def reachesPower (numerator denominator : Nat) (power : Int) : Bool :=
  denominator * Nat.pow 2 power.toNat ≤ numerator * Nat.pow 2 (-power).toNat

/-- The exponent of the largest power of two that a positive ratio reaches. -/
def binaryMagnitude (numerator denominator : Nat) : Int :=
  let estimate : Int := (numerator.log2 : Int) - denominator.log2
  if reachesPower numerator denominator estimate then estimate else estimate - 1

/-- Zero with a sign. -/
def zero (negative : Bool) : Binary64 :=
  .finite negative 0 (-1074)

/-- The number nearest to a ratio of naturals. -/
def ofRatio (negative : Bool) (numerator denominator : Nat) : Binary64 :=
  if numerator = 0 then
    zero negative
  else
    let exponent := max (binaryMagnitude numerator denominator - 52) (-1074)
    let mantissa :=
      roundedQuotient (numerator * Nat.pow 2 (-exponent).toNat)
        (denominator * Nat.pow 2 exponent.toNat)
    let (mantissa, exponent) :=
      if mantissa = Nat.pow 2 53 then (Nat.pow 2 52, exponent + 1) else (mantissa, exponent)
    if 971 < exponent then .infinite negative else .finite negative mantissa exponent

/-- The number nearest to a natural with a sign. -/
def ofNat (negative : Bool) (natural : Nat) : Binary64 :=
  ofRatio negative natural 1

/-- The natural that a text of digits in a base denotes; other characters count as their offset. -/
def readDigits (base : Nat) (digits : Text) : Nat :=
  digits.foldl (fun total c => total * base + digitValue c) 0
where
  /-- The value of a digit in a base up to sixteen. -/
  digitValue (c : Char) : Nat :=
    if c.toNat ≤ 57 then c.toNat - 48
    else if c.toNat ≤ 90 then c.toNat - 55
    else c.toNat - 87

/--
The number nearest to a decimal: its digits read as a natural, times a
power of ten.  Decimals beyond all finite numbers, or below half the
smallest, are settled by their magnitude alone.
-/
def ofDecimal (negative : Bool) (digits : Text) (exponent : Int) : Binary64 :=
  let significant := digits.dropWhile (· == '0')
  let magnitude : Int := significant.length + exponent
  if significant.isEmpty || magnitude < -330 then
    zero negative
  else if 330 < magnitude then
    .infinite negative
  else
    ofRatio negative (readDigits 10 significant * Nat.pow 10 exponent.toNat)
      (Nat.pow 10 (-exponent).toNat)

/-- Numeric equality: no number equals a nan, and the zeros are equal. -/
def same : Binary64 → Binary64 → Bool
  | .infinite left, .infinite right => left == right
  | .finite leftSign leftMantissa leftExponent, .finite rightSign rightMantissa rightExponent =>
    (leftMantissa == 0 && rightMantissa == 0) ||
      (leftSign == rightSign && leftMantissa == rightMantissa && leftExponent == rightExponent)
  | _, _ => false

/-- Whether a number is neither infinite nor a nan. -/
def isFinite : Binary64 → Bool
  | .finite _ _ _ => true
  | _ => false

/-- Whether a number has a negative sign. -/
def isNegative : Binary64 → Bool
  | .nan => false
  | .infinite negative => negative
  | .finite negative _ _ => negative

/-- The numerator and the denominator of the ratio that a finite number is, without its sign. -/
def ratio : Binary64 → Nat × Nat
  | .finite _ mantissa exponent =>
    (mantissa * Nat.pow 2 exponent.toNat, Nat.pow 2 (-exponent).toNat)
  | _ => (0, 1)

/-- The sum of two numbers; a zero is negative if both are. -/
def add (left right : Binary64) : Binary64 :=
  match left, right with
  | .finite leftSign _ _, .finite rightSign _ _ =>
    let (leftTop, leftBottom) := left.ratio
    let (rightTop, rightBottom) := right.ratio
    let signed (negative : Bool) (size : Nat) : Int := if negative then -(size : Int) else size
    let total := signed leftSign (leftTop * rightBottom) + signed rightSign (rightTop * leftBottom)
    if total = 0 then zero (leftSign && rightSign)
    else ofRatio (decide (total < 0)) total.natAbs (leftBottom * rightBottom)
  | .nan, _ => .nan
  | _, .nan => .nan
  | .infinite leftSign, .infinite rightSign =>
    if leftSign = rightSign then .infinite leftSign else .nan
  | .infinite negative, _ => .infinite negative
  | _, .infinite negative => .infinite negative

/-- A number times a natural that is rounded to a number first. -/
def scale (number : Binary64) (factor : Nat) : Binary64 :=
  match number with
  | .finite negative _ _ =>
    let (top, bottom) := number.ratio
    let (factorTop, factorBottom) := (ofNat false factor).ratio
    ofRatio negative (top * factorTop) (bottom * factorBottom)
  | other => other

/-- The number with the opposite sign. -/
def negate : Binary64 → Binary64
  | .nan => .nan
  | .infinite negative => .infinite !negative
  | .finite negative mantissa exponent => .finite (!negative) mantissa exponent

end Binary64

end HtmlJsx
