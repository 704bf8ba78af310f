import HtmlJsx.Number.Binary64

/-!
# Where naturals stop being finite numbers

The largest finite number is `(2 ^ 53 - 1) * 2 ^ 971`.  A natural is rounded
to a finite number if it lies below the middle between that number and the
next power of two; the middle itself has an odd neighbour below and is
rounded up.  At the other end, zero is the only natural that is rounded to zero.
-/

namespace HtmlJsx.Binary64

/-- The unit of the last place in the largest finite numbers. -/
def largestUnit : Nat := Nat.pow 2 971

/-- The least natural that is rounded to an infinite number. -/
def overflowStart : Nat := Nat.pow 2 1024 - Nat.pow 2 970

theorem binaryMagnitude_natural {natural : Nat} (positive : natural ≠ 0) :
    binaryMagnitude natural 1 = natural.log2 := by
  have one : Nat.log2 1 = 0 := by decide
  have reaches : reachesPower natural 1 natural.log2 = true := by
    simpa [reachesPower] using Nat.log2_self_le positive
  simp [binaryMagnitude, one, reaches]

/-- Below an even bound, rounding to the bound needs half a unit or more above an odd quotient. -/
theorem roundedQuotient_eq_succ_iff {half top natural : Nat} (positive : 0 < half)
    (odd : top % 2 = 1) (below : natural < (top + 1) * (2 * half)) :
    roundedQuotient natural (2 * half) = top + 1 ↔ top * (2 * half) + half ≤ natural := by
  have whole := Nat.div_add_mod natural (2 * half)
  have remainder : natural % (2 * half) < 2 * half := Nat.mod_lt _ (by omega)
  have bounded : natural / (2 * half) < top + 1 := (Nat.div_lt_iff_lt_mul (by omega)).mpr below
  rw [roundedQuotient, Nat.mul_comm top]
  generalize natural / (2 * half) = quotient at whole bounded ⊢
  generalize natural % (2 * half) = rest at whole remainder ⊢
  rcases Nat.lt_succ_iff_lt_or_eq.mp bounded with less | same
  · have room : 2 * half * (quotient + 1) ≤ 2 * half * top := Nat.mul_le_mul_left _ less
    rw [Nat.mul_add, Nat.mul_one] at room
    constructor
    · intro rounded
      split at rounded
      · omega
      · split at rounded
        · omega
        · split at rounded
          · omega
          · omega
    · intro large
      omega
  · rw [same]
    rw [same] at whole
    constructor
    · intro rounded
      split at rounded
      · omega
      · omega
    · intro large
      split
      · omega
      · split
        · rfl
        · rw [if_neg (by omega)]

/-- A mantissa that has become too long raises the exponent by one. -/
theorem isFinite_carried_iff (negative : Bool) (mantissa : Nat) (exponent : Int) :
    (match if mantissa = Nat.pow 2 53 then (Nat.pow 2 52, exponent + 1) else (mantissa, exponent) with
      | (mantissa, exponent) =>
        if 971 < exponent then Binary64.infinite negative
        else .finite negative mantissa exponent).isFinite = true ↔
      exponent < 971 ∨ exponent = 971 ∧ mantissa ≠ Nat.pow 2 53 := by
  by_cases long : mantissa = Nat.pow 2 53
  · rw [if_pos long]
    by_cases large : 971 < exponent + 1
    · simp only [if_pos large, isFinite]
      simp [long]
      omega
    · simp only [if_neg large, isFinite]
      simp [long]
      omega
  · rw [if_neg long]
    by_cases large : 971 < exponent
    · simp only [if_pos large, isFinite]
      simp [long]
      omega
    · simp only [if_neg large, isFinite]
      simp [long]
      omega

/--
The exponent of a natural is that of its leading bit.  Where it is the
largest one, a mantissa that is rounded up to one more bit makes the number
infinite.
-/
theorem isFinite_ofNat_of_ne_zero {negative : Bool} {natural : Nat} (positive : natural ≠ 0) :
    (ofNat negative natural).isFinite = true ↔
      natural.log2 < 1023 ∨
        natural.log2 = 1023 ∧ roundedQuotient natural largestUnit ≠ Nat.pow 2 53 := by
  have exponent : max ((natural.log2 : Int) - 52) (-1074) = natural.log2 - 52 := by omega
  rw [ofNat, ofRatio, if_neg positive, binaryMagnitude_natural positive, exponent]
  rw [isFinite_carried_iff, Nat.one_mul]
  by_cases last : natural.log2 = 1023
  · have scaled : natural * Nat.pow 2 (-(971 : Int)).toNat = natural := by simp
    have largest : ((1023 : Nat) - 52 : Int) = 971 := by decide
    have unit : Nat.pow 2 (971 : Int).toNat = largestUnit := by decide +kernel
    rw [last, largest, scaled, unit]
    constructor
    · rintro (wrong | ⟨-, unrounded⟩)
      · exact absurd wrong (Int.lt_irrefl 971)
      · exact .inr ⟨rfl, unrounded⟩
    · rintro (wrong | ⟨-, unrounded⟩)
      · exact absurd wrong (Nat.lt_irrefl 1023)
      · exact .inr ⟨rfl, unrounded⟩
  · omega

theorem lt_of_log2_lt {natural bits limit : Nat} (positive : natural ≠ 0)
    (less : natural.log2 < bits) (fits : Nat.pow 2 bits ≤ limit) : natural < limit :=
  Nat.lt_of_lt_of_le ((Nat.log2_lt positive).mp less) fits

theorem le_of_le_log2 {natural bits limit : Nat} (positive : natural ≠ 0)
    (atLeast : bits ≤ natural.log2) (beyond : limit ≤ Nat.pow 2 bits) : limit ≤ natural :=
  Nat.le_trans beyond ((Nat.le_log2 positive).mp atLeast)

/-- Naturals below the middle are finite numbers, and no others. -/
theorem isFinite_ofNat_iff {negative : Bool} {natural : Nat} :
    (ofNat negative natural).isFinite = true ↔ natural < overflowStart := by
  by_cases zero : natural = 0
  · subst zero
    have positive : 0 < overflowStart := by decide +kernel
    exact iff_of_true rfl positive
  rw [isFinite_ofNat_of_ne_zero zero]
  have middle : (Nat.pow 2 53 - 1) * (2 * Nat.pow 2 970) + Nat.pow 2 970 = overflowStart := by
    decide +kernel
  rcases Nat.lt_trichotomy natural.log2 1023 with small | last | large
  · exact iff_of_true (.inl small) (lt_of_log2_lt zero small (by decide +kernel))
  · have below : natural < (Nat.pow 2 53 - 1 + 1) * (2 * Nat.pow 2 970) := by
      have lessThan : natural.log2 < 1024 := by omega
      exact lt_of_log2_lt zero lessThan (by decide +kernel)
    have rounded := roundedQuotient_eq_succ_iff (by decide +kernel : 0 < Nat.pow 2 970)
      (by decide +kernel : (Nat.pow 2 53 - 1) % 2 = 1) below
    rw [middle] at rounded
    have unit : 2 * Nat.pow 2 970 = largestUnit := by decide +kernel
    have bits : Nat.pow 2 53 - 1 + 1 = Nat.pow 2 53 := by decide +kernel
    rw [unit, bits] at rounded
    rw [Ne, rounded, Nat.not_le]
    constructor
    · rintro (small | ⟨-, less⟩)
      · omega
      · exact less
    · intro less
      exact .inr ⟨last, less⟩
  · have atLeast : 1024 ≤ natural.log2 := large
    have beyond : overflowStart ≤ natural := le_of_le_log2 zero atLeast (by decide +kernel)
    constructor
    · rintro (small | ⟨last, -⟩)
      · omega
      · omega
    · intro less
      exact absurd beyond (Nat.not_le.mpr less)

/-! ## Zero -/

theorem le_roundedQuotient (numerator denominator : Nat) :
    numerator / denominator ≤ roundedQuotient numerator denominator := by
  rw [roundedQuotient]
  repeat' split
  all_goals omega

/-- The mantissa of a natural keeps its leading bit. -/
theorem roundedQuotient_ne_zero {natural : Nat} (positive : natural ≠ 0) :
    roundedQuotient (natural * Nat.pow 2 (-((natural.log2 : Int) - 52)).toNat)
      (1 * Nat.pow 2 ((natural.log2 : Int) - 52).toNat) ≠ 0 := by
  have leading : 2 ^ natural.log2 ≤ natural := Nat.log2_self_le positive
  have shift : 2 ^ ((natural.log2 : Int) - 52).toNat ≤ 2 ^ natural.log2 :=
    Nat.pow_le_pow_right (by decide) (by omega)
  have scaled : natural ≤ natural * 2 ^ (-((natural.log2 : Int) - 52)).toNat :=
    Nat.le_mul_of_pos_right natural (Nat.pow_pos (by decide))
  have quotient : 0 < natural * Nat.pow 2 (-((natural.log2 : Int) - 52)).toNat /
      (1 * Nat.pow 2 ((natural.log2 : Int) - 52).toNat) := by
    rw [Nat.one_mul]
    exact Nat.div_pos (Nat.le_trans shift (Nat.le_trans leading scaled)) (Nat.pow_pos (by decide))
  exact Nat.ne_of_gt (Nat.lt_of_lt_of_le quotient (le_roundedQuotient _ _))

theorem ofNat_of_ne_zero (negative : Bool) {natural : Nat} (positive : natural ≠ 0) :
    ofNat negative natural = .infinite negative ∨
      ∃ mantissa exponent, mantissa ≠ 0 ∧ ofNat negative natural = .finite negative mantissa exponent := by
  have exponent : max ((natural.log2 : Int) - 52) (-1074) = natural.log2 - 52 := by omega
  have leading := roundedQuotient_ne_zero positive
  rw [ofNat, ofRatio, if_neg positive, binaryMagnitude_natural positive, exponent]
  dsimp only
  split
  · split
    · exact .inl rfl
    · exact .inr ⟨_, _, Nat.ne_of_gt (Nat.pow_pos (by decide)), rfl⟩
  · split
    · exact .inl rfl
    · exact .inr ⟨_, _, leading, rfl⟩

/-- Of the naturals only zero is rounded to zero. -/
theorem same_zero_ofNat_iff {natural : Nat} :
    (zero false).same (ofNat false natural) = true ↔ natural = 0 := by
  constructor
  · intro same
    apply Decidable.byContradiction
    intro positive
    rcases ofNat_of_ne_zero false positive with infinite | ⟨mantissa, exponent, nonzero, finite⟩
    · rw [infinite] at same
      cases same
    · rw [finite] at same
      simp [Binary64.same, zero, nonzero, Ne.symm nonzero] at same
  · rintro rfl
    rfl

end HtmlJsx.Binary64
