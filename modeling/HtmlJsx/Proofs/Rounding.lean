import HtmlJsx.Proofs.Binary64
import Mathlib.Algebra.Order.Field.Power
import Mathlib.Data.Rat.Cast.Order
import Mathlib.Tactic.FieldSimp
import Mathlib.Tactic.Linarith
import Mathlib.Tactic.NormNum
import Mathlib.Tactic.Positivity
import Mathlib.Tactic.Ring

/-!
# Correct rounding

Rounding chooses from the finite numbers and from the power of two beyond
them: the nearest one, and of two equally near ones the one with the even
mantissa.  Where the power of two is chosen the number is infinite.

This determines the number.  The conversion of ratios rounds so, and with it
the conversions of naturals and of decimals, which therefore agree wherever
they are given the same ratio.
-/

namespace HtmlJsx.Binary64

/-! ## Nearest numbers -/

/-- The size of a mantissa with an exponent. -/
def size (mantissa : ℕ) (exponent : ℤ) : ℚ := mantissa * 2 ^ exponent

/-- Whether rounding may choose a number: a finite one, or the power of two beyond all of them. -/
structure IsCandidate (mantissa : ℕ) (exponent : ℤ) : Prop where
  fits : mantissa < 2 ^ 53
  atLeast : -1074 ≤ exponent
  normal : 2 ^ 52 ≤ mantissa ∨ exponent = -1074
  atMost : exponent ≤ 971 ∨ mantissa = 2 ^ 52 ∧ exponent = 972

/-- Whether no candidate is nearer to a ratio; of two as near, the one with the even mantissa. -/
structure IsNearest (ratio : ℚ) (mantissa : ℕ) (exponent : ℤ) : Prop where
  candidate : IsCandidate mantissa exponent
  nearest : ∀ {otherMantissa otherExponent}, IsCandidate otherMantissa otherExponent →
    |ratio - size mantissa exponent| ≤ |ratio - size otherMantissa otherExponent|
  even : ∀ {otherMantissa otherExponent}, IsCandidate otherMantissa otherExponent →
    size otherMantissa otherExponent ≠ size mantissa exponent →
    |ratio - size otherMantissa otherExponent| = |ratio - size mantissa exponent| →
    mantissa % 2 = 0 ∧ otherMantissa % 2 = 1

/-- Whether a number is a ratio, with a sign, after rounding. -/
def IsRounded (negative : Bool) (ratio : ℚ) (number : Binary64) : Prop :=
  ∃ mantissa exponent, IsNearest ratio mantissa exponent ∧
    number = if 971 < exponent then .infinite negative else .finite negative mantissa exponent

theorem size_eq_mul {exponent finer : ℤ} (mantissa : ℕ) (least : finer ≤ exponent) :
    size mantissa exponent = size (mantissa * 2 ^ (exponent - finer).toNat) finer := by
  have split : exponent = (exponent - finer).toNat + finer := by omega
  rw [size, size]
  nth_rewrite 1 [split]
  rw [zpow_add₀ (by norm_num), zpow_natCast]
  push_cast
  ring

/-- Candidates of the same size are the same. -/
theorem IsCandidate.eq_of_size_eq {mantissa otherMantissa : ℕ} {exponent otherExponent : ℤ}
    (candidate : IsCandidate mantissa exponent) (other : IsCandidate otherMantissa otherExponent)
    (same : size mantissa exponent = size otherMantissa otherExponent) :
    mantissa = otherMantissa ∧ exponent = otherExponent := by
  wlog least : exponent ≤ otherExponent generalizing mantissa otherMantissa exponent otherExponent
  · obtain ⟨mantissas, exponents⟩ := this other candidate same.symm (by omega)
    exact ⟨mantissas.symm, exponents.symm⟩
  have unit : (2 : ℚ) ^ exponent ≠ 0 := by positivity
  rw [size_eq_mul otherMantissa least, size, size, mul_left_inj' unit, Nat.cast_inj] at same
  obtain rfl | less := eq_or_lt_of_le least
  · exact ⟨by simpa using same, rfl⟩
  · -- A larger exponent comes with a full mantissa, so the smaller one would need another bit.
    have full : 2 ^ 52 ≤ otherMantissa := by
      rcases other.normal with full | smallest
      · exact full
      · have := candidate.atLeast
        omega
    have doubled : 2 ^ 1 ≤ 2 ^ (otherExponent - exponent).toNat :=
      Nat.pow_le_pow_right (by decide) (by omega)
    have large : 2 ^ 52 * 2 ^ 1 ≤ mantissa := same ▸ Nat.mul_le_mul full doubled
    have := candidate.fits
    omega

theorem IsNearest.unique {ratio : ℚ} {mantissa otherMantissa : ℕ} {exponent otherExponent : ℤ}
    (nearest : IsNearest ratio mantissa exponent)
    (other : IsNearest ratio otherMantissa otherExponent) :
    mantissa = otherMantissa ∧ exponent = otherExponent := by
  have near : |ratio - size otherMantissa otherExponent| = |ratio - size mantissa exponent| :=
    le_antisymm (other.nearest nearest.candidate) (nearest.nearest other.candidate)
  by_cases same : size otherMantissa otherExponent = size mantissa exponent
  · exact nearest.candidate.eq_of_size_eq other.candidate same.symm
  · have odd := (nearest.even other.candidate same near).2
    have even := (other.even nearest.candidate (Ne.symm same) near.symm).1
    omega

/-- A ratio with a sign is rounded to one number only. -/
theorem IsRounded.unique {negative : Bool} {ratio : ℚ} {left right : Binary64}
    (leftRounded : IsRounded negative ratio left) (rightRounded : IsRounded negative ratio right) :
    left = right := by
  obtain ⟨mantissa, exponent, nearest, rfl⟩ := leftRounded
  obtain ⟨otherMantissa, otherExponent, other, rfl⟩ := rightRounded
  obtain ⟨rfl, rfl⟩ := nearest.unique other
  rfl

/-! ## The nearest natural -/

/-- Whether a natural is the nearest one to a ratio, the even one if there are two. -/
structure RoundsTo (ratio : ℚ) (natural : ℕ) : Prop where
  near : |ratio - natural| ≤ 1 / 2
  even : |ratio - natural| = 1 / 2 → natural % 2 = 0

theorem roundsTo_roundedQuotient (numerator : ℕ) {denominator : ℕ} (positive : 0 < denominator) :
    RoundsTo ((numerator : ℚ) / denominator) (roundedQuotient numerator denominator) := by
  have bottom : (0 : ℚ) < denominator := by exact_mod_cast positive
  have whole := Nat.div_add_mod numerator denominator
  have below := Nat.mod_lt numerator positive
  rw [roundedQuotient]
  generalize numerator / denominator = quotient at whole ⊢
  generalize numerator % denominator = rest at whole below ⊢
  have parts : (numerator : ℚ) / denominator = quotient + rest / denominator := by
    rw [← whole]
    push_cast
    field_simp
  have fraction : (rest : ℚ) / denominator * denominator = rest := div_mul_cancel₀ _ bottom.ne'
  have nonnegative : (0 : ℚ) ≤ rest / denominator := by positivity
  rw [parts]
  generalize (rest : ℚ) / denominator = part at fraction nonnegative ⊢
  have roundedDown : (quotient + part - quotient : ℚ) = part := by ring
  have roundedUp : (quotient + part - (quotient + 1 : ℕ) : ℚ) = part - 1 := by
    push_cast
    ring
  split
  · next less =>
    have half : part < 1 / 2 := by
      have : (2 * rest : ℚ) < denominator := by exact_mod_cast less
      nlinarith
    constructor
    · rw [roundedDown, abs_of_nonneg nonnegative]
      exact half.le
    · rw [roundedDown, abs_of_nonneg nonnegative]
      exact fun tie => absurd tie half.ne
  split
  · next more =>
    have half : 1 / 2 < part := by
      have : (denominator : ℚ) < 2 * rest := by exact_mod_cast more
      nlinarith
    have small : part < 1 := by
      have : (rest : ℚ) < denominator := by exact_mod_cast below
      nlinarith
    constructor
    · rw [roundedUp, abs_of_neg (by linarith)]
      linarith
    · rw [roundedUp, abs_of_neg (by linarith)]
      intro tie
      linarith
  · next notLess notMore =>
    have half : part = 1 / 2 := by
      have : (2 * rest : ℚ) = denominator := by exact_mod_cast (by omega : 2 * rest = denominator)
      have nonzero := bottom.ne'
      rw [← this] at fraction
      rw [← this] at bottom
      nlinarith
    split
    · next even =>
      constructor
      · rw [roundedDown, half]
        norm_num
      · exact fun _ => even
    · next odd =>
      constructor
      · rw [roundedUp, half]
        norm_num
      · intro _
        omega

theorem one_le_distances (ratio : ℚ) {natural other : ℕ} (different : other ≠ natural) :
    1 ≤ |ratio - natural| + |ratio - other| := by
  have apart : (1 : ℚ) ≤ |(natural : ℚ) - other| := by
    have : (1 : ℤ) ≤ |(natural : ℤ) - other| := Int.one_le_abs (by omega)
    exact_mod_cast this
  have between := abs_sub_le (natural : ℚ) ratio other
  rw [abs_sub_comm (natural : ℚ) ratio] at between
  linarith

theorem RoundsTo.le {ratio : ℚ} {natural : ℕ} (rounds : RoundsTo ratio natural) (other : ℕ) :
    |ratio - natural| ≤ |ratio - other| := by
  by_cases same : other = natural
  · rw [same]
  · have apart := one_le_distances ratio same
    have near := rounds.near
    linarith

/-- A natural as near as the nearest one is its odd neighbour. -/
theorem RoundsTo.even_and_odd {ratio : ℚ} {natural other : ℕ} (rounds : RoundsTo ratio natural)
    (different : other ≠ natural) (tie : |ratio - other| = |ratio - natural|) :
    natural % 2 = 0 ∧ other % 2 = 1 := by
  have apart := one_le_distances ratio different
  have near := rounds.near
  have half : |ratio - natural| = 1 / 2 := by linarith
  have even := rounds.even half
  have between := abs_sub_le (natural : ℚ) ratio other
  rw [abs_sub_comm (natural : ℚ) ratio, tie, half] at between
  have close : |(natural : ℤ) - other| ≤ 1 := by
    have : |(natural : ℚ) - other| ≤ 1 := by linarith
    exact_mod_cast this
  rw [abs_le] at close
  omega

/-! ## The unit of the last place -/

/-- Whether an exponent is that of the unit in which a ratio is rounded. -/
structure IsUnitOf (ratio : ℚ) (exponent : ℤ) : Prop where
  fits : ratio < size (2 ^ 53) exponent
  atLeast : -1074 ≤ exponent
  normal : size (2 ^ 52) exponent ≤ ratio ∨ exponent = -1074

section

variable {ratio : ℚ} {natural otherMantissa : ℕ} {exponent otherExponent : ℤ}

theorem size_double (mantissa : ℕ) (exponent : ℤ) :
    size (2 * mantissa) exponent = size mantissa (exponent + 1) := by
  rw [size_eq_mul mantissa (by omega : exponent ≤ exponent + 1)]
  simp [mul_comm]

theorem size_lt_size {mantissa larger : ℕ} (less : mantissa < larger) (exponent : ℤ) :
    size mantissa exponent < size larger exponent := by
  have unit : (0 : ℚ) < 2 ^ exponent := by positivity
  rw [size, size]
  exact (mul_lt_mul_iff_left₀ unit).mpr (by exact_mod_cast less)

theorem size_le_size (mantissa : ℕ) (less : exponent ≤ otherExponent) :
    size mantissa exponent ≤ size mantissa otherExponent := by
  rw [size, size]
  exact mul_le_mul_of_nonneg_left (zpow_le_zpow_right₀ (by norm_num) less) (Nat.cast_nonneg _)

/-- A candidate is a multiple of a unit, or has a smaller unit and lies below the full mantissas. -/
theorem IsCandidate.multiple_or_below (other : IsCandidate otherMantissa otherExponent)
    (exponent : ℤ) :
    (∃ multiple : ℕ, size otherMantissa otherExponent = size multiple exponent ∧
      (multiple % 2 = 1 → otherMantissa % 2 = 1)) ∨
    -1074 < exponent ∧ size otherMantissa otherExponent < size (2 ^ 52) exponent := by
  rcases le_or_gt exponent otherExponent with coarser | finer
  · refine .inl ⟨_, size_eq_mul otherMantissa coarser, ?_⟩
    intro odd
    exact Nat.odd_iff.mp (Nat.odd_mul.mp (Nat.odd_iff.mpr odd)).1
  · refine .inr ⟨lt_of_le_of_lt other.atLeast finer, ?_⟩
    calc size otherMantissa otherExponent
      _ < size (2 ^ 53) otherExponent := size_lt_size other.fits otherExponent
      _ ≤ size (2 ^ 53) (exponent - 1) := size_le_size _ (by omega)
      _ = size (2 ^ 52) exponent := by
        rw [show 2 ^ 53 = 2 * 2 ^ 52 by norm_num, size_double, sub_add_cancel]

theorem distance_eq (ratio : ℚ) (natural : ℕ) (exponent : ℤ) :
    |ratio - size natural exponent| = |ratio / 2 ^ exponent - natural| * 2 ^ exponent := by
  have unit : (0 : ℚ) < 2 ^ exponent := by positivity
  rw [size, ← abs_of_pos unit, ← abs_mul, abs_of_pos unit, sub_mul, div_mul_cancel₀ _ unit.ne']

/-- A candidate below the full mantissas of a unit is farther away than the rounded ratio. -/
theorem IsUnitOf.distance_lt (unit : IsUnitOf ratio exponent)
    (rounds : RoundsTo (ratio / 2 ^ exponent) natural) (regular : -1074 < exponent)
    (below : size otherMantissa otherExponent < size (2 ^ 52) exponent) :
    |ratio - size natural exponent| < |ratio - size otherMantissa otherExponent| := by
  have full : size (2 ^ 52) exponent ≤ ratio := unit.normal.resolve_right (by omega)
  calc |ratio - size natural exponent|
    _ ≤ |ratio - size (2 ^ 52) exponent| := by
      rw [distance_eq, distance_eq]
      exact mul_le_mul_of_nonneg_right (rounds.le _) (by positivity)
    _ = ratio - size (2 ^ 52) exponent := abs_of_nonneg (by linarith)
    _ < ratio - size otherMantissa otherExponent := by linarith
    _ ≤ |ratio - size otherMantissa otherExponent| := le_abs_self _

/-- A ratio that is rounded in its unit is rounded to the nearest candidate. -/
theorem IsUnitOf.isNearest (unit : IsUnitOf ratio exponent)
    (rounds : RoundsTo (ratio / 2 ^ exponent) natural) {mantissa : ℕ} {shown : ℤ}
    (candidate : IsCandidate mantissa shown) (same : size mantissa shown = size natural exponent)
    (even : natural % 2 = 0 → mantissa % 2 = 0) : IsNearest ratio mantissa shown := by
  have positive : (0 : ℚ) < 2 ^ exponent := by positivity
  refine ⟨candidate, ?_, ?_⟩
  · intro otherMantissa otherExponent other
    rw [same]
    rcases other.multiple_or_below exponent with ⟨multiple, equal, -⟩ | ⟨regular, below⟩
    · rw [equal, distance_eq, distance_eq]
      exact mul_le_mul_of_nonneg_right (rounds.le multiple) positive.le
    · exact (unit.distance_lt rounds regular below).le
  · intro otherMantissa otherExponent other different tie
    rw [same] at different tie
    rcases other.multiple_or_below exponent with ⟨multiple, equal, odd⟩ | ⟨regular, below⟩
    · rw [equal, distance_eq, distance_eq, mul_left_inj' positive.ne'] at tie
      have apart : multiple ≠ natural := by
        rintro rfl
        exact different equal
      obtain ⟨evenNatural, oddMultiple⟩ := rounds.even_and_odd apart tie
      exact ⟨even evenNatural, odd oddMultiple⟩
    · exact absurd tie (unit.distance_lt rounds regular below).ne'

/-- What is not below the power of two beyond the finite numbers is rounded to it. -/
theorem isNearest_of_beyond (beyond : size (2 ^ 52) 972 ≤ ratio) :
    IsNearest ratio (2 ^ 52) 972 := by
  have last : ∀ {mantissa : ℕ} {exponent : ℤ}, IsCandidate mantissa exponent →
      size mantissa exponent ≤ size (2 ^ 52) 972 := by
    intro mantissa exponent candidate
    rcases candidate.atMost with least | ⟨rfl, rfl⟩
    · calc size mantissa exponent
        _ ≤ size (2 ^ 53) exponent := (size_lt_size candidate.fits exponent).le
        _ ≤ size (2 ^ 53) 971 := size_le_size _ least
        _ = size (2 ^ 52) 972 := size_double (2 ^ 52) 971
    · exact le_rfl
  refine ⟨⟨by norm_num, by norm_num, .inl le_rfl, .inr ⟨rfl, rfl⟩⟩, ?_, ?_⟩
  · intro otherMantissa otherExponent other
    have := last other
    rw [abs_of_nonneg (by linarith), abs_of_nonneg (by linarith)]
    linarith
  · intro otherMantissa otherExponent other different tie
    have := last other
    rw [abs_of_nonneg (by linarith), abs_of_nonneg (by linarith)] at tie
    exact absurd (by linarith) different

/-- What is below half the smallest unit is rounded to zero. -/
theorem isNearest_zero (nonnegative : 0 ≤ ratio) (small : ratio < size 1 (-1075)) :
    IsNearest ratio 0 (-1074) := by
  have farther : ∀ {mantissa : ℕ} {exponent : ℤ}, IsCandidate mantissa exponent →
      size mantissa exponent ≠ 0 → ratio < |ratio - size mantissa exponent| := by
    intro mantissa exponent candidate nonzero
    have positive : 1 ≤ mantissa := by
      rw [Nat.one_le_iff_ne_zero]
      rintro rfl
      exact nonzero (by simp [size])
    have least : 2 * size 1 (-1075) ≤ size mantissa exponent := by
      calc 2 * size 1 (-1075)
        _ = size (2 * 1) (-1075) := by rw [size, size, Nat.cast_mul, Nat.cast_two, mul_assoc]
        _ = size 1 (-1074) := size_double 1 (-1075)
        _ ≤ size 1 exponent := size_le_size _ candidate.atLeast
        _ ≤ size mantissa exponent := by
          rw [size, size]
          exact mul_le_mul_of_nonneg_right (by exact_mod_cast positive) (by positivity)
    rw [abs_sub_comm]
    exact lt_of_lt_of_le (by linarith) (le_abs_self _)
  have zero : size 0 (-1074) = 0 := by simp [size]
  refine ⟨⟨by norm_num, le_rfl, .inr rfl, .inl (by norm_num)⟩, ?_, ?_⟩
  · intro otherMantissa otherExponent other
    by_cases same : size otherMantissa otherExponent = 0
    · rw [zero, same]
    · rw [zero, sub_zero, abs_of_nonneg nonnegative]
      exact (farther other same).le
  · intro otherMantissa otherExponent other different tie
    rw [zero] at different tie
    rw [sub_zero, abs_of_nonneg nonnegative] at tie
    exact absurd tie (farther other different).ne'

end

/-! ## Ratios -/

theorem zpow_eq_div (base : ℕ) (positive : 0 < base) (power : ℤ) :
    (base : ℚ) ^ power = (base : ℚ) ^ power.toNat / (base : ℚ) ^ (-power).toNat := by
  have nonzero : (base : ℚ) ≠ 0 := by exact_mod_cast positive.ne'
  have split : power = power.toNat - (-power).toNat := by omega
  nth_rewrite 1 [split]
  rw [zpow_sub₀ nonzero, zpow_natCast, zpow_natCast]

section

variable {numerator denominator : ℕ}

theorem reachesPower_iff (positive : 0 < denominator) (power : ℤ) :
    reachesPower numerator denominator power = true ↔
      (2 : ℚ) ^ power ≤ (numerator : ℚ) / denominator := by
  have bottom : (0 : ℚ) < denominator := by exact_mod_cast positive
  have unit : (0 : ℚ) < 2 ^ (-power).toNat := by positivity
  have ratio := zpow_eq_div 2 (by decide) power
  rw [Nat.cast_ofNat] at ratio
  rw [reachesPower, decide_eq_true_eq, ratio, div_le_div_iff₀ unit bottom, mul_comm]
  exact_mod_cast Iff.rfl

/-- The leading bit of a positive ratio. -/
theorem binaryMagnitude_bounds (positiveTop : numerator ≠ 0) (positive : 0 < denominator) :
    (2 : ℚ) ^ binaryMagnitude numerator denominator ≤ (numerator : ℚ) / denominator ∧
      (numerator : ℚ) / denominator < 2 ^ (binaryMagnitude numerator denominator + 1) := by
  have bottom : (0 : ℚ) < denominator := by exact_mod_cast positive
  have topLow : (2 : ℚ) ^ numerator.log2 ≤ numerator := by
    exact_mod_cast Nat.log2_self_le positiveTop
  have topHigh : (numerator : ℚ) < 2 ^ (numerator.log2 + 1) := by
    exact_mod_cast @Nat.lt_log2_self numerator
  have bottomLow : (2 : ℚ) ^ denominator.log2 ≤ denominator := by
    exact_mod_cast Nat.log2_self_le positive.ne'
  have bottomHigh : (denominator : ℚ) < 2 ^ (denominator.log2 + 1) := by
    exact_mod_cast @Nat.lt_log2_self denominator
  have atLeast : (2 : ℚ) ^ ((numerator.log2 : ℤ) - denominator.log2 - 1) ≤
      (numerator : ℚ) / denominator := by
    have power : (numerator.log2 : ℤ) - denominator.log2 - 1 =
        (numerator.log2 : ℤ) - (denominator.log2 + 1 : ℕ) := by omega
    rw [power, zpow_sub₀ (by norm_num), zpow_natCast, zpow_natCast]
    exact div_le_div₀ (by positivity) topLow bottom bottomHigh.le
  have atMost : (numerator : ℚ) / denominator <
      2 ^ ((numerator.log2 : ℤ) - denominator.log2 + 1) := by
    have power : (numerator.log2 : ℤ) - denominator.log2 + 1 =
        (numerator.log2 + 1 : ℕ) - (denominator.log2 : ℤ) := by omega
    rw [power, zpow_sub₀ (by norm_num), zpow_natCast, zpow_natCast]
    exact div_lt_div₀ topHigh bottomLow (by positivity) (by positivity)
  rw [binaryMagnitude]
  split
  · next reaches => exact ⟨(reachesPower_iff positive _).mp reaches, atMost⟩
  · next short =>
    rw [reachesPower_iff positive, not_le] at short
    exact ⟨atLeast, by rwa [sub_add_cancel]⟩

/-- The exponent with which a positive ratio is rounded. -/
theorem isUnitOf_ratio (positiveTop : numerator ≠ 0) (positive : 0 < denominator) :
    IsUnitOf ((numerator : ℚ) / denominator)
      (max (binaryMagnitude numerator denominator - 52) (-1074)) := by
  obtain ⟨atLeast, below⟩ := binaryMagnitude_bounds positiveTop positive
  generalize binaryMagnitude numerator denominator = magnitude at atLeast below ⊢
  have full : ∀ bits : ℕ, size (2 ^ bits) (magnitude - 52) = 2 ^ (magnitude - 52 + bits) := by
    intro bits
    rw [size, zpow_add₀ (by norm_num), zpow_natCast, mul_comm]
    push_cast
    rfl
  refine ⟨?_, le_max_right _ _, ?_⟩
  · calc (numerator : ℚ) / denominator
      _ < 2 ^ (magnitude + 1) := below
      _ = size (2 ^ 53) (magnitude - 52) := by
        rw [full]
        congr 1
        push_cast
        ring
      _ ≤ size (2 ^ 53) (max (magnitude - 52) (-1074)) := size_le_size _ (le_max_left _ _)
  · rcases le_total (-1074) (magnitude - 52) with regular | small
    · left
      rw [max_eq_left regular, full, Nat.cast_ofNat, sub_add_cancel]
      exact atLeast
    · exact .inr (max_eq_right small)

/-- The number of a rounded mantissa, whose exponent rises if the mantissa has become too long. -/
def carried (negative : Bool) (mantissa : ℕ) (exponent : ℤ) : Binary64 :=
  if mantissa = 2 ^ 53 then
    if 971 < exponent + 1 then .infinite negative else .finite negative (2 ^ 52) (exponent + 1)
  else
    if 971 < exponent then .infinite negative else .finite negative mantissa exponent

theorem ofRatio_of_ne_zero (negative : Bool) (positiveTop : numerator ≠ 0) {exponent : ℤ}
    (unit : exponent = max (binaryMagnitude numerator denominator - 52) (-1074)) :
    ofRatio negative numerator denominator =
      carried negative (roundedQuotient (numerator * 2 ^ (-exponent).toNat)
        (denominator * 2 ^ exponent.toNat)) exponent := by
  subst unit
  rw [ofRatio, if_neg positiveTop]
  dsimp only
  split
  · next long => exact (if_pos long).symm
  · next short => exact (if_neg short).symm

/-- A mantissa that is rounded in the unit of a ratio gives the nearest number. -/
theorem IsUnitOf.isRounded_carried {ratio : ℚ} {exponent : ℤ} {mantissa : ℕ} (negative : Bool)
    (unit : IsUnitOf ratio exponent) (rounds : RoundsTo (ratio / 2 ^ exponent) mantissa) :
    IsRounded negative ratio (carried negative mantissa exponent) := by
  have positive : (0 : ℚ) < 2 ^ exponent := by positivity
  have near := abs_le.mp rounds.near
  by_cases large : 971 < exponent
  · refine ⟨2 ^ 52, 972, isNearest_of_beyond ?_, ?_⟩
    · calc size (2 ^ 52) 972
        _ ≤ size (2 ^ 52) exponent := size_le_size _ large
        _ ≤ ratio := unit.normal.resolve_right (by omega)
    · rw [carried, if_pos large, if_pos (by omega : 971 < exponent + 1), ite_self]
      rfl
  rw [carried]
  split
  · next long =>
    refine ⟨2 ^ 52, exponent + 1, unit.isNearest rounds ?_ ?_ fun _ => by norm_num, rfl⟩
    · exact ⟨by norm_num, by have := unit.atLeast; omega, .inl le_rfl, by omega⟩
    · rw [long, ← size_double]
      norm_num
  · next short =>
    refine ⟨mantissa, exponent, unit.isNearest rounds ?_ rfl id, (if_neg large).symm⟩
    refine ⟨?_, unit.atLeast, ?_, .inl (by omega)⟩
    · have fits : ratio / 2 ^ exponent < 2 ^ 53 := by
        rw [div_lt_iff₀ positive]
        exact_mod_cast unit.fits
      have : (mantissa : ℚ) < (2 ^ 53 + 1 : ℕ) := by
        push_cast
        linarith
      have : mantissa < 2 ^ 53 + 1 := by exact_mod_cast this
      omega
    · rcases unit.normal with full | smallest
      · left
        have full : 2 ^ 52 ≤ ratio / 2 ^ exponent := by
          rw [le_div_iff₀ positive]
          exact_mod_cast full
        have : ((2 ^ 52 : ℕ) : ℚ) < (mantissa + 1 : ℕ) := by
          push_cast
          linarith
        have : 2 ^ 52 < mantissa + 1 := by exact_mod_cast this
        omega
      · exact .inr smallest

/-- A ratio is rounded correctly. -/
theorem isRounded_ofRatio (negative : Bool) (numerator : ℕ) (positive : 0 < denominator) :
    IsRounded negative ((numerator : ℚ) / denominator)
      (ofRatio negative numerator denominator) := by
  by_cases zeroTop : numerator = 0
  · subst zeroTop
    refine ⟨0, -1074, ?_, rfl⟩
    rw [Nat.cast_zero, zero_div]
    exact isNearest_zero le_rfl (by rw [size]; positivity)
  rw [ofRatio_of_ne_zero negative zeroTop rfl]
  apply (isUnitOf_ratio zeroTop positive).isRounded_carried
  generalize max (binaryMagnitude numerator denominator - 52) (-1074) = exponent
  have scaled := roundsTo_roundedQuotient (numerator * 2 ^ (-exponent).toNat)
    (Nat.mul_pos positive (Nat.two_pow_pos exponent.toNat))
  have power := zpow_eq_div 2 (by decide) exponent
  rw [Nat.cast_ofNat] at power
  rw [power, div_div_div_eq]
  push_cast at scaled
  exact scaled

/-- A natural is rounded correctly. -/
theorem isRounded_ofNat (negative : Bool) (natural : ℕ) :
    IsRounded negative natural (ofNat negative natural) := by
  have rounded := isRounded_ofRatio negative natural Nat.one_pos
  rwa [Nat.cast_one, div_one] at rounded

end

end HtmlJsx.Binary64
