import HtmlJsx.Number.Binary64

/-!
# Shortest decimals

The text of a binary number with the fewest digits that read back as the
same number; among these the nearest to it, and of two equally near ones
the even one.

The numbers that round to a given one form an interval around it, whose
ends belong to it when the mantissa is even.  For each number of digits in
turn the two neighbours on that decimal grid are tried.
-/

namespace HtmlJsx.Binary64

/-- How many decimal digits a natural has. -/
def digitCount (natural : Nat) : Nat :=
  (Nat.toDigits 10 natural).length

/-- A positive number and the ends of its rounding interval, over one denominator. -/
structure Interval where
  value : Nat
  low : Nat
  high : Nat
  denominator : Nat
  closed : Bool

/-- The numbers that round to `mantissa * 2 ^ exponent`. -/
def interval (mantissa : Nat) (exponent : Int) : Interval :=
  let below := if mantissa = Nat.pow 2 52 ∧ -1074 < exponent then 1 else 2
  let scale := Nat.pow 2 exponent.toNat
  { value := 4 * mantissa * scale
    low := (4 * mantissa - below) * scale
    high := (4 * mantissa + 2) * scale
    denominator := 4 * Nat.pow 2 (-exponent).toNat
    closed := mantissa % 2 = 0 }

/-- The place of the decimal point: the least `k` with `value < 10 ^ k`. -/
def Interval.point (range : Interval) : Int :=
  if range.denominator ≤ range.value then
    digitCount (range.value / range.denominator)
  else
    1 - digitCount ((range.denominator - 1) / range.value)

/-- A point of the grid with `count` digits that reads back, the nearer one if there are two. -/
def Interval.gridPoint? (range : Interval) (count : Nat) : Option Nat :=
  let shift := range.point - count
  let up := Nat.pow 10 (-shift).toNat
  let unit := range.denominator * Nat.pow 10 shift.toNat
  let value := range.value * up
  let within (candidate : Nat) : Bool :=
    let scaled := candidate * unit
    (range.low * up < scaled && scaled < range.high * up) ||
      (range.closed && (scaled == range.low * up || scaled == range.high * up))
  let floor := value / unit
  let left := value - floor * unit
  let right := (floor + 1) * unit - value
  match within floor, within (floor + 1) with
  | true, true =>
    some (if left < right || (left == right && floor % 2 == 0) then floor else floor + 1)
  | true, false => some floor
  | false, true => some (floor + 1)
  | false, false => none

/-- Try ever finer grids, `remaining` of them, from the one with `count` digits on. -/
def Interval.searchGrid (range : Interval) : Nat → Nat → Nat × Nat
  | 0, count => (range.value / range.denominator, count)
  | remaining + 1, count =>
    match range.gridPoint? count with
    | some point => (point, count)
    | none => range.searchGrid remaining (count + 1)

/-- The shortest digits of a positive number and the place of its decimal point. -/
def shortest (mantissa : Nat) (exponent : Int) : Text × Int :=
  let range := interval mantissa exponent
  let (point, count) := range.searchGrid 17 1
  let digits := Nat.toDigits 10 point
  let place := range.point + (digits.length - count)
  ((digits.reverse.dropWhile (· == '0')).reverse, place)

/-- Digits with a decimal point: positional up to sixteen places, otherwise with an exponent. -/
def layout (digits : Text) (place : Int) : Text :=
  if -4 < place ∧ place ≤ 16 then
    if place ≤ 0 then
      ['0', '.'] ++ List.replicate (-place).toNat '0' ++ digits
    else if digits.length ≤ place.toNat then
      digits ++ List.replicate (place.toNat - digits.length) '0' ++ ['.', '0']
    else
      digits.take place.toNat ++ ['.'] ++ digits.drop place.toNat
  else
    let power := place - 1
    let sign := if power < 0 then '-' else '+'
    let shown := Nat.toDigits 10 power.natAbs
    let padded := if shown.length < 2 then '0' :: shown else shown
    let fraction := if digits.length ≤ 1 then [] else '.' :: digits.drop 1
    digits.take 1 ++ fraction ++ ['e', sign] ++ padded

/-- The text of a number. -/
def display : Binary64 → Text
  | .nan => "nan".toList
  | .infinite negative => if negative then "-inf".toList else "inf".toList
  | .finite negative mantissa exponent =>
    let sign := if negative then ['-'] else []
    if mantissa = 0 then
      sign ++ ['0', '.', '0']
    else
      let (digits, place) := shortest mantissa exponent
      sign ++ layout digits place

end HtmlJsx.Binary64
