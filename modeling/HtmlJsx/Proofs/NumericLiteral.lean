import HtmlJsx.Proofs.Rounding
import HtmlJsx.Proofs.Spelling
import Mathlib.Data.Nat.Digits.Lemmas

/-!
# Numeric literals

A decimal literal is a sign, digits with a point among them or without, and an
exponent; a literal with a base is a zero, the letter of the base, and digits.
Each denotes a ratio by the values of its places.

The readers accept exactly these literals, and the number that they give is
the denoted ratio, correctly rounded.
-/

namespace HtmlJsx.Spelling

open Binary64 (IsRounded)

/-! ## The values of places -/

/-- The digits of all bases, in the order of their values. -/
def digitChars : Text := "0123456789abcdef".toList

/-- Whether a character is one of the first digits, in either letter case. -/
def IsDigitBelow (base : ℕ) (c : Char) : Prop := c.toLower ∈ digitChars.take base

/-- The value of a digit. -/
def digitOf (c : Char) : ℕ := digitChars.idxOf c.toLower

/-- The natural that digits denote, of which the last one counts the units. -/
def positional (base : ℕ) (digits : Text) : ℕ :=
  Nat.ofDigits base (digits.map digitOf).reverse

theorem toNat_lt_of_isDigitBelow {base : ℕ} {c : Char} (below : IsDigitBelow base c) :
    c.toNat < 103 := by
  have member : c.toLower ∈ digitChars := List.mem_of_mem_take below
  have low : digitChars.all (fun c => decide (c.toNat < 103)) = true := by decide
  have bound : c.toLower.toNat < 103 := by
    simpa using List.all_eq_true.mp low c.toLower member
  by_cases upper : 'A' ≤ c ∧ c ≤ 'Z'
  · have : c ≤ 'Z' := upper.2
    rw [Char.le_def, UInt32.le_iff_toNat_le] at this
    exact Nat.lt_of_le_of_lt this (by decide)
  · have unchanged : c.toLower = c := dif_neg upper
    rwa [unchanged] at bound

theorem toNat_lt_of_isDigitIn {base : ℕ} {c : Char} (inBase : isDigitIn base c = true) :
    c.toNat < 103 := by
  simp only [isDigitIn, Char.isDigit, Bool.or_eq_true, Bool.and_eq_true, decide_eq_true_eq,
    Char.le_def, UInt32.le_iff_toNat_le, Char.reduceVal, UInt32.reduceToNat] at inBase
  rw [Char.toNat]
  omega

/-- The digits of a base are the first digits of all. -/
theorem isDigitIn_iff {base : ℕ} (known : base ∈ [2, 8, 10, 16]) {c : Char} :
    isDigitIn base c = true ↔ IsDigitBelow base c := by
  have each : ∀ base ∈ [2, 8, 10, 16], ∀ code < 103,
      isDigitIn base (Char.ofNat code) =
        (digitChars.take base).contains (Char.ofNat code).toLower := by
    decide
  by_cases low : c.toNat < 103
  · have same := each base known c.toNat low
    rw [Char.ofNat_toNat] at same
    rw [same, List.contains_iff_mem]
    rfl
  · constructor
    · intro inBase
      exact absurd (toNat_lt_of_isDigitIn inBase) low
    · intro below
      exact absurd (toNat_lt_of_isDigitBelow below) low

theorem toNat_of_isDigit {c : Char} (digit : c.isDigit = true) : 48 ≤ c.toNat ∧ c.toNat ≤ 57 := by
  simp only [Char.isDigit, Char.reduceVal, UInt32.le_iff_toNat_le, UInt32.reduceToNat,
    Bool.and_eq_true, decide_eq_true_eq] at digit
  exact digit

theorem isDigitIn_ten (c : Char) : isDigitIn 10 c = c.isDigit := by
  cases digit : c.isDigit with
  | false => simp [isDigitIn, digit]
  | true =>
    have small : c.toNat - 48 < 10 := by
      have := toNat_of_isDigit digit
      omega
    simp [isDigitIn, digit, small]

theorem digitValue_eq_digitOf {base : ℕ} {c : Char} (inBase : isDigitIn base c = true) :
    Binary64.readDigits.digitValue c = digitOf c := by
  have each : ∀ code < 103, isDigitIn 16 (Char.ofNat code) = true →
      Binary64.readDigits.digitValue (Char.ofNat code) = digitOf (Char.ofNat code) := by
    decide
  have widest : isDigitIn 16 c = true := by
    simp only [isDigitIn, Bool.or_eq_true, Bool.and_eq_true, decide_eq_true_eq, beq_iff_eq]
      at inBase ⊢
    rcases inBase with ⟨digit, -⟩ | letter
    · have := toNat_of_isDigit digit
      exact .inl ⟨digit, by omega⟩
    · exact .inr ⟨trivial, letter.2⟩
  have same := each c.toNat (toNat_lt_of_isDigitIn inBase)
  rw [Char.ofNat_toNat] at same
  exact same widest

theorem digitOf_lt_ten {c : Char} (digit : c.isDigit = true) : digitOf c < 10 := by
  have bounds := toNat_of_isDigit digit
  rw [← digitValue_eq_digitOf ((isDigitIn_ten c).trans digit), Binary64.readDigits.digitValue,
    if_pos bounds.2]
  omega

@[simp]
theorem positional_nil (base : ℕ) : positional base [] = 0 := rfl

theorem positional_cons (base : ℕ) (c : Char) (digits : Text) :
    positional base (c :: digits) = digitOf c * base ^ digits.length + positional base digits := by
  rw [positional, positional, List.map_cons, Nat.ofDigits_reverse_cons, List.length_map]
  ring

theorem positional_append (base : ℕ) (front back : Text) :
    positional base (front ++ back) =
      positional base front * base ^ back.length + positional base back := by
  rw [positional, positional, positional, List.map_append, List.reverse_append,
    Nat.ofDigits_append, List.length_reverse, List.length_map]
  ring

theorem readDigits_eq_positional {base : ℕ} {digits : Text}
    (inBase : ∀ c ∈ digits, isDigitIn base c = true) :
    Binary64.readDigits base digits = positional base digits := by
  rw [positional, Nat.ofDigits_eq_foldr, List.foldr_reverse, List.foldl_map, Binary64.readDigits]
  apply List.foldl_ext
  intro total c member
  rw [digitValue_eq_digitOf (inBase c member), mul_comm, add_comm]
  rfl

/-- Leading zeros do not count. -/
theorem positional_dropWhile_zero (base : ℕ) (digits : Text) :
    positional base (digits.dropWhile (· == '0')) = positional base digits := by
  induction digits with
  | nil => rfl
  | cons c rest induction =>
    rw [List.dropWhile_cons]
    split
    · next zero =>
      rw [induction, positional_cons, beq_iff_eq.mp zero]
      have none : digitOf '0' = 0 := by decide
      rw [none, zero_mul, zero_add]
    · rfl

theorem positional_lt {digits : Text} (allDigits : ∀ c ∈ digits, c.isDigit = true) :
    positional 10 digits < 10 ^ digits.length := by
  have small : ∀ value ∈ (digits.map digitOf).reverse, value < 10 := by
    intro value member
    obtain ⟨c, listed, rfl⟩ := List.mem_map.mp (List.mem_reverse.mp member)
    exact digitOf_lt_ten (allDigits c listed)
  have bound := Nat.ofDigits_lt_base_pow_length (by decide) small
  rwa [List.length_reverse, List.length_map] at bound

theorem le_positional_cons {c : Char} {rest : Text} (digit : c.isDigit = true) (solid : c ≠ '0') :
    10 ^ rest.length ≤ positional 10 (c :: rest) := by
  have positive : 1 ≤ digitOf c := by
    rw [Nat.one_le_iff_ne_zero]
    intro zero
    have bounds := toNat_of_isDigit digit
    rw [← digitValue_eq_digitOf ((isDigitIn_ten c).trans digit), Binary64.readDigits.digitValue,
      if_pos bounds.2] at zero
    have code : c.toNat = 48 := by omega
    exact solid (by rw [← Char.ofNat_toNat c, code])
  rw [positional_cons]
  exact le_trans (Nat.le_mul_of_pos_left _ positive) (Nat.le_add_right _ _)

/-! ## Decimals are rounded correctly -/

section

variable {digits : Text}

/-- What has more than 330 places before the point is beyond all finite numbers. -/
theorem beyond_of_magnitude {first : Char} {rest : Text} (digit : first.isDigit = true)
    (solid : first ≠ '0') {exponent : ℤ} (large : 330 < (first :: rest).length + exponent) :
    Binary64.size (2 ^ 52) 972 ≤ positional 10 (first :: rest) * (10 : ℚ) ^ exponent := by
  have least : ((10 ^ rest.length : ℕ) : ℚ) ≤ positional 10 (first :: rest) := by
    exact_mod_cast le_positional_cons digit solid
  have powers : 2 ^ 52 * 2 ^ 972 ≤ 10 ^ 330 := by decide +kernel
  calc Binary64.size (2 ^ 52) 972
    _ = ((2 ^ 52 * 2 ^ 972 : ℕ) : ℚ) := by
      rw [Binary64.size, Nat.cast_mul, Nat.cast_pow 2 972]
      rfl
    _ ≤ ((10 ^ 330 : ℕ) : ℚ) := Nat.cast_le.mpr powers
    _ = (10 : ℚ) ^ (330 : ℤ) := by
      rw [Nat.cast_pow]
      rfl
    _ ≤ (10 : ℚ) ^ ((rest.length : ℤ) + exponent) := by
      apply zpow_le_zpow_right₀ (by norm_num)
      rw [List.length_cons] at large
      omega
    _ = ((10 ^ rest.length : ℕ) : ℚ) * (10 : ℚ) ^ exponent := by
      rw [zpow_add₀ (by norm_num), zpow_natCast, Nat.cast_pow, Nat.cast_ofNat]
    _ ≤ positional 10 (first :: rest) * (10 : ℚ) ^ exponent :=
      mul_le_mul_of_nonneg_right least (by positivity)

/-- What begins more than 330 places behind the point is below half the smallest number. -/
theorem small_of_magnitude (allDigits : ∀ c ∈ digits, c.isDigit = true) {exponent : ℤ}
    (small : digits.length + exponent < -330) :
    positional 10 digits * (10 : ℚ) ^ exponent < Binary64.size 1 (-1075) := by
  have bound : (positional 10 digits : ℚ) < ((10 ^ digits.length : ℕ) : ℚ) := by
    exact_mod_cast positional_lt allDigits
  have powers : 2 ^ 1075 ≤ 10 ^ 331 := by decide +kernel
  have cast : ((2 ^ 1075 : ℕ) : ℚ) ≤ ((10 ^ 331 : ℕ) : ℚ) := Nat.cast_le.mpr powers
  rw [Nat.cast_pow, Nat.cast_pow, Nat.cast_ofNat, Nat.cast_ofNat] at cast
  calc positional 10 digits * (10 : ℚ) ^ exponent
    _ < ((10 ^ digits.length : ℕ) : ℚ) * (10 : ℚ) ^ exponent :=
      mul_lt_mul_of_pos_right bound (by positivity)
    _ = (10 : ℚ) ^ ((digits.length : ℤ) + exponent) := by
      rw [zpow_add₀ (by norm_num), zpow_natCast, Nat.cast_pow, Nat.cast_ofNat]
    _ ≤ (10 : ℚ) ^ (-(331 : ℕ) : ℤ) := zpow_le_zpow_right₀ (by norm_num) (by omega)
    _ = ((10 : ℚ) ^ 331)⁻¹ := by rw [zpow_neg, zpow_natCast]
    _ ≤ ((2 : ℚ) ^ 1075)⁻¹ := inv_anti₀ (by positivity) cast
    _ = (2 : ℚ) ^ (-(1075 : ℕ) : ℤ) := by rw [zpow_neg, zpow_natCast]
    _ = Binary64.size 1 (-1075) := by
      rw [Binary64.size, Nat.cast_one, one_mul]
      rfl

theorem isRounded_ofDecimal (negative : Bool) (allDigits : ∀ c ∈ digits, c.isDigit = true)
    (exponent : ℤ) :
    IsRounded negative (positional 10 digits * (10 : ℚ) ^ exponent)
      (Binary64.ofDecimal negative digits exponent) := by
  have kept : ∀ c ∈ digits.dropWhile (· == '0'), c.isDigit = true :=
    fun c member => allDigits c ((List.dropWhile_sublist _).subset member)
  have head := List.head?_dropWhile_not (· == '0') digits
  rw [← positional_dropWhile_zero, Binary64.ofDecimal]
  generalize digits.dropWhile (· == '0') = significant at kept head
  cases significant with
  | nil =>
    refine ⟨0, -1074, ?_, rfl⟩
    rw [positional_nil, Nat.cast_zero, zero_mul]
    exact Binary64.isNearest_zero le_rfl (by rw [Binary64.size]; positivity)
  | cons first rest =>
    have solid : first ≠ '0' := by simpa using head
    dsimp only [List.isEmpty_cons, Bool.false_or]
    split
    · next small =>
      refine ⟨0, -1074, Binary64.isNearest_zero (by positivity) ?_, rfl⟩
      exact small_of_magnitude kept (of_decide_eq_true small)
    split
    · next large =>
      refine ⟨2 ^ 52, 972, Binary64.isNearest_of_beyond ?_, rfl⟩
      exact beyond_of_magnitude (kept first List.mem_cons_self) solid large
    · have value : Binary64.readDigits 10 (first :: rest) = positional 10 (first :: rest) :=
        readDigits_eq_positional fun c member => (isDigitIn_ten c).trans (kept c member)
      have rounded := Binary64.isRounded_ofRatio negative
        (positional 10 (first :: rest) * 10 ^ exponent.toNat)
        (Nat.pow_pos (by decide : 0 < 10) : 0 < 10 ^ (-exponent).toNat)
      have power := Binary64.zpow_eq_div 10 (by decide) exponent
      rw [Nat.cast_mul, Nat.cast_pow, Nat.cast_pow, mul_div_assoc, ← power,
        Nat.cast_ofNat] at rounded
      rw [value]
      exact rounded

end


/-! ## Decimal literals -/

/-- A sign, which may be absent. -/
inductive Sign where
  | absent
  | plus
  | minus
  deriving DecidableEq

namespace Sign

def text : Sign → Text
  | .absent => []
  | .plus => ['+']
  | .minus => ['-']

def isNegative : Sign → Bool
  | .minus => true
  | _ => false

/-- A natural with a sign. -/
def apply (sign : Sign) (natural : ℕ) : ℤ :=
  if sign.isNegative then -natural else natural

end Sign

/-- The exponent of a decimal literal. -/
structure ExponentPart where
  mark : Char
  sign : Sign
  digits : Text
  isMark : mark = 'e' ∨ mark = 'E'
  nonempty : digits ≠ []
  allDigits : ∀ c ∈ digits, c.isDigit = true

namespace ExponentPart

def text (part : ExponentPart) : Text := part.mark :: (part.sign.text ++ part.digits)

def value (part : ExponentPart) : ℤ := part.sign.apply (positional 10 part.digits)

end ExponentPart

/-- A decimal literal.  The digits behind the point are absent if there is no point. -/
structure DecimalLiteral where
  sign : Sign
  whole : Text
  fraction : Option Text := none
  exponent : Option ExponentPart := none
  wholeDigits : ∀ c ∈ whole, c.isDigit = true
  fractionDigits : ∀ c ∈ fraction.getD [], c.isDigit = true
  nonempty : whole ≠ [] ∨ fraction.getD [] ≠ []

namespace DecimalLiteral

def fractionText (literal : DecimalLiteral) : Text :=
  (literal.fraction.map ('.' :: ·)).getD []

def exponentText (literal : DecimalLiteral) : Text :=
  (literal.exponent.map ExponentPart.text).getD []

def exponentValue (literal : DecimalLiteral) : ℤ :=
  (literal.exponent.map ExponentPart.value).getD 0

def text (literal : DecimalLiteral) : Text :=
  literal.sign.text ++ (literal.whole ++ (literal.fractionText ++ literal.exponentText))

/-- The ratio that a decimal literal denotes, without its sign. -/
def value (literal : DecimalLiteral) : ℚ :=
  (positional 10 literal.whole +
    positional 10 (literal.fraction.getD []) / 10 ^ (literal.fraction.getD []).length) *
    10 ^ literal.exponentValue

end DecimalLiteral

/-- Whether a text does not begin with a sign. -/
def Unsigned (text : Text) : Prop := ∀ c ∈ text.head?, c ≠ '-' ∧ c ≠ '+'

theorem splitSign_append_text {text : Text} (sign : Sign) (unsigned : Unsigned text) :
    splitSign (sign.text ++ text) = (sign.isNegative, text) := by
  cases sign with
  | absent =>
    cases text with
    | nil => rfl
    | cons c rest =>
      obtain ⟨minus, plus⟩ := unsigned c rfl
      simp [Sign.text, Sign.isNegative, splitSign, minus, plus]
  | plus => rfl
  | minus => rfl

theorem exists_sign_text (text : Text) :
    ∃ sign : Sign, text = sign.text ++ (splitSign text).2 ∧
      sign.isNegative = (splitSign text).1 := by
  unfold splitSign
  split
  · exact ⟨.minus, rfl, rfl⟩
  · exact ⟨.plus, rfl, rfl⟩
  · exact ⟨.absent, rfl, rfl⟩

theorem unsigned_of_isDigit {text more : Text} (nonempty : text ≠ [])
    (allDigits : ∀ c ∈ text, c.isDigit = true) : Unsigned (text ++ more) := by
  cases text with
  | nil => exact absurd rfl nonempty
  | cons c rest =>
    intro first edge
    obtain rfl : c = first := by simpa using edge
    have digit := allDigits c List.mem_cons_self
    constructor
    · rintro rfl
      cases digit
    · rintro rfl
      cases digit

/-- Whether no digit stands at the start of a text. -/
def Undigited (text : Text) : Prop := ∀ c ∈ text.head?, c.isDigit = false

section Run

variable {test : Char → Bool} {run rest : Text}
  (all : ∀ c ∈ run, test c = true) (ends : ∀ c ∈ rest.head?, test c = false)

include all ends

theorem takeWhile_run : (run ++ rest).takeWhile test = run := by
  rw [List.takeWhile_append_of_pos all]
  cases rest with
  | nil => simp
  | cons c more => rw [List.takeWhile_cons_of_neg (by simp [ends c rfl]), List.append_nil]

theorem dropWhile_run : (run ++ rest).dropWhile test = rest := by
  rw [List.dropWhile_append_of_pos all]
  cases rest with
  | nil => rfl
  | cons c more => exact List.dropWhile_cons_of_neg (by simp [ends c rfl])

end Run

theorem readDigits_ten {digits : Text} (allDigits : ∀ c ∈ digits, c.isDigit = true) :
    Binary64.readDigits 10 digits = positional 10 digits :=
  readDigits_eq_positional fun c member => (isDigitIn_ten c).trans (allDigits c member)

theorem exponentPart?_text (part : ExponentPart) :
    exponentPart? part.text = some part.value := by
  have unsigned : Unsigned part.digits := by
    have begun := @unsigned_of_isDigit _ [] part.nonempty part.allDigits
    rwa [List.append_nil] at begun
  have refused : (part.digits.isEmpty || !part.digits.all Char.isDigit) = false := by
    simp [part.nonempty, List.all_eq_true.mpr part.allDigits]
  rw [ExponentPart.text, exponentPart?, if_pos part.isMark,
    splitSign_append_text part.sign unsigned]
  simp only [refused, readDigits_ten part.allDigits]
  rfl

theorem exists_part_of_exponentPart? {text : Text} {exponent : ℤ}
    (found : exponentPart? text = some exponent) :
    ∃ part : Option ExponentPart, (part.map ExponentPart.text).getD [] = text := by
  cases text with
  | nil => exact ⟨none, rfl⟩
  | cons c rest =>
    obtain ⟨sign, split, -⟩ := exists_sign_text rest
    rcases signed : splitSign rest with ⟨negative, unsigned⟩
    rw [signed] at split
    simp only [exponentPart?, signed, Option.ite_none_right_eq_some, Bool.or_eq_true,
      Option.ite_none_left_eq_some, not_or, Bool.not_eq_true, Bool.not_eq_eq_eq_not,
      Bool.not_true, Bool.not_eq_false, List.all_eq_true, List.isEmpty_eq_false_iff] at found
    obtain ⟨letter, ⟨nonempty, allDigits⟩, -⟩ := found
    exact ⟨some ⟨c, sign, unsigned, letter, nonempty, allDigits⟩, by rw [split]; rfl⟩

namespace DecimalLiteral

variable (literal : DecimalLiteral)

theorem exponentPart?_exponentText :
    exponentPart? literal.exponentText = some literal.exponentValue := by
  rw [exponentText, exponentValue]
  cases literal.exponent with
  | none => rfl
  | some part => exact exponentPart?_text part

theorem undigited_exponentText : Undigited literal.exponentText := by
  intro c edge
  rw [exponentText] at edge
  cases present : literal.exponent with
  | none =>
    rw [present] at edge
    cases edge
  | some part =>
    rw [present] at edge
    obtain rfl : part.mark = c := by simpa [ExponentPart.text] using edge
    rcases part.isMark with letter | letter
    · rw [letter]
      rfl
    · rw [letter]
      rfl

theorem undigited_rest : Undigited (literal.fractionText ++ literal.exponentText) := by
  rw [fractionText]
  cases literal.fraction with
  | none => exact literal.undigited_exponentText
  | some digits =>
    intro c edge
    obtain rfl : '.' = c := by simpa using edge
    rfl

theorem unsigned_rest :
    Unsigned (literal.whole ++ (literal.fractionText ++ literal.exponentText)) := by
  by_cases whole : literal.whole = []
  · have nonempty := literal.nonempty.resolve_left fun wrong => wrong whole
    rw [whole, fractionText]
    cases present : literal.fraction with
    | none =>
      rw [present] at nonempty
      exact absurd rfl nonempty
    | some digits =>
      intro c edge
      obtain rfl : '.' = c := by simpa using edge
      exact ⟨by decide, by decide⟩
  · exact unsigned_of_isDigit whole literal.wholeDigits

/-- A decimal literal is read as its digits with an exponent. -/
theorem decimal?_text :
    decimal? literal.text = some (Binary64.ofDecimal literal.sign.isNegative
      (literal.whole ++ literal.fraction.getD [])
      (literal.exponentValue - (literal.fraction.getD []).length)) := by
  have taken := takeWhile_run literal.wholeDigits literal.undigited_rest
  have dropped := dropWhile_run literal.wholeDigits literal.undigited_rest
  rw [text, decimal?, splitSign_append_text literal.sign literal.unsigned_rest]
  dsimp only
  rw [taken, dropped]
  cases present : literal.fraction with
  | none =>
    have nonempty : literal.whole.isEmpty = false := by
      simpa [present] using literal.nonempty
    have nothing : literal.fractionText = [] := by rw [fractionText, present]; rfl
    have ends := literal.exponentPart?_exponentText
    rw [nothing, List.nil_append]
    split
    · next more pointed =>
      rw [pointed] at ends
      simp [exponentPart?] at ends
    · simp [nonempty, ends]
  | some digits =>
    have allDigits := literal.fractionDigits
    have nonempty := literal.nonempty
    rw [present, Option.getD_some] at allDigits nonempty
    have pointed : literal.fractionText = '.' :: digits := by rw [fractionText, present]; rfl
    have refused : (literal.whole.isEmpty && digits.isEmpty) = false := by
      rcases nonempty with inWhole | inFraction
      · simp [inWhole]
      · simp [inFraction]
    simp only [pointed, List.cons_append,
      takeWhile_run allDigits literal.undigited_exponentText,
      dropWhile_run allDigits literal.undigited_exponentText, refused,
      literal.exponentPart?_exponentText]
    rfl

theorem value_eq :
    literal.value = positional 10 (literal.whole ++ literal.fraction.getD []) *
      (10 : ℚ) ^ (literal.exponentValue - (literal.fraction.getD []).length) := by
  rw [value, positional_append, zpow_sub₀ (by norm_num), zpow_natCast]
  push_cast
  field_simp

/-- The number that a decimal literal is read as is its value, correctly rounded. -/
theorem exists_isRounded :
    ∃ number, decimal? literal.text = some number ∧
      IsRounded literal.sign.isNegative literal.value number := by
  refine ⟨_, literal.decimal?_text, ?_⟩
  rw [value_eq]
  apply isRounded_ofDecimal
  intro c member
  rcases List.mem_append.mp member with inWhole | inFraction
  · exact literal.wholeDigits c inWhole
  · exact literal.fractionDigits c inFraction

end DecimalLiteral

/-- What is read as a decimal is a decimal literal. -/
theorem exists_literal_of_decimal? {text : Text} {number : Binary64}
    (found : decimal? text = some number) :
    ∃ literal : DecimalLiteral, literal.text = text ∧
      IsRounded literal.sign.isNegative literal.value number := by
  suffices spelled : ∃ literal : DecimalLiteral, literal.text = text by
    obtain ⟨literal, rfl⟩ := spelled
    obtain ⟨other, read, rounded⟩ := literal.exists_isRounded
    obtain rfl : other = number := Option.some.inj (read.symm.trans found)
    exact ⟨literal, rfl, rounded⟩
  obtain ⟨sign, whole, -⟩ := exists_sign_text text
  rcases signed : splitSign text with ⟨negative, unsigned⟩
  rw [signed] at whole
  simp only [decimal?, signed, Option.ite_none_left_eq_some, Option.map_eq_some_iff] at found
  have allDigits : ∀ text : Text, ∀ c ∈ text.takeWhile Char.isDigit, c.isDigit = true :=
    fun text => List.all_eq_true.mp List.all_takeWhile
  have parts : ∀ text : Text, text.takeWhile Char.isDigit ++ text.dropWhile Char.isDigit = text :=
    fun text => List.takeWhile_append_dropWhile
  split at found
  · next more pointed =>
    obtain ⟨nonempty, exponent, exponentFound, -⟩ := found
    rw [Bool.and_eq_true, List.isEmpty_iff, List.isEmpty_iff, not_and_or] at nonempty
    obtain ⟨part, ends⟩ := exists_part_of_exponentPart? exponentFound
    refine ⟨⟨sign, _, some _, part, allDigits unsigned, allDigits more, nonempty⟩, ?_⟩
    change sign.text ++ (unsigned.takeWhile Char.isDigit ++
      ('.' :: (more.takeWhile Char.isDigit ++ (part.map ExponentPart.text).getD []))) = text
    rw [ends, parts more, ← pointed, parts unsigned]
    exact whole.symm
  · obtain ⟨nonempty, exponent, exponentFound, -⟩ := found
    rw [List.isEmpty_nil, Bool.and_true, List.isEmpty_iff] at nonempty
    obtain ⟨part, ends⟩ := exists_part_of_exponentPart? exponentFound
    refine ⟨⟨sign, _, none, part, allDigits unsigned,
      fun _ member => absurd member List.not_mem_nil, .inl nonempty⟩, ?_⟩
    change sign.text ++ (unsigned.takeWhile Char.isDigit ++
      (part.map ExponentPart.text).getD []) = text
    rw [ends, parts unsigned]
    exact whole.symm

/-! ## Literals with a base -/

/-- A literal with a base. -/
structure BaseLiteral where
  letter : Char
  base : ℕ
  digits : Text
  announced : (letter, base) ∈ [('x', 16), ('X', 16), ('o', 8), ('O', 8), ('b', 2), ('B', 2)]
  nonempty : digits ≠ []
  allDigits : ∀ c ∈ digits, IsDigitBelow base c

namespace BaseLiteral

def text (literal : BaseLiteral) : Text := '0' :: literal.letter :: literal.digits

/-- The natural that a literal with a base denotes. -/
def value (literal : BaseLiteral) : ℕ := positional literal.base literal.digits

end BaseLiteral

theorem baseOf?_eq_some_iff {letter : Char} {base : ℕ} :
    baseOf? letter = some base ↔
      (letter, base) ∈ [('x', 16), ('X', 16), ('o', 8), ('O', 8), ('b', 2), ('B', 2)] := by
  constructor
  · intro announced
    have member := (mark_of_baseOf? announced).1
    have each : "xXoObB".toList.all (fun letter => (baseOf? letter).all fun base =>
        [('x', 16), ('X', 16), ('o', 8), ('O', 8), ('b', 2), ('B', 2)].contains (letter, base)) =
          true := by
      decide
    have listed := List.all_eq_true.mp each letter member
    rw [announced] at listed
    exact List.contains_iff_mem.mp listed
  · intro listed
    have each : [('x', 16), ('X', 16), ('o', 8), ('O', 8), ('b', 2), ('B', 2)].all
        (fun entry => baseOf? entry.1 == some entry.2) = true := by
      decide
    exact beq_iff_eq.mp (List.all_eq_true.mp each (letter, base) listed)

theorem known_of_baseOf? {letter : Char} {base : ℕ} (announced : baseOf? letter = some base) :
    base ∈ [2, 8, 10, 16] := by
  have each : [('x', 16), ('X', 16), ('o', 8), ('O', 8), ('b', 2), ('B', 2)].all
      (fun entry => [2, 8, 10, 16].contains entry.2) = true := by
    decide
  exact List.contains_iff_mem.mp
    (List.all_eq_true.mp each (letter, base) (baseOf?_eq_some_iff.mp announced))

/-- What is read as a literal with a base is one, and is read as its value. -/
theorem radix?_eq_some_iff {text : Text} {natural : ℕ} :
    radix? text = some natural ↔
      ∃ literal : BaseLiteral, literal.text = text ∧ literal.value = natural := by
  constructor
  · intro found
    obtain ⟨letter, digits, base, rfl, announced, nonempty, inBase, read⟩ := radix?_eq_some found
    have inBase := List.all_eq_true.mp inBase
    have known := known_of_baseOf? announced
    refine ⟨⟨letter, base, digits, baseOf?_eq_some_iff.mp announced, nonempty, ?_⟩, rfl, ?_⟩
    · exact fun c member => (isDigitIn_iff known).mp (inBase c member)
    · rw [← read, readDigits_eq_positional inBase]
      rfl
  · rintro ⟨literal, rfl, rfl⟩
    have announced := baseOf?_eq_some_iff.mpr literal.announced
    have known := known_of_baseOf? announced
    have inBase : ∀ c ∈ literal.digits, isDigitIn literal.base c = true :=
      fun c member => (isDigitIn_iff known).mpr (literal.allDigits c member)
    have refused : (literal.digits.isEmpty || !literal.digits.all (isDigitIn literal.base)) =
        false := by
      simp [literal.nonempty, List.all_eq_true.mpr inBase]
    simp only [BaseLiteral.text, radix?, announced, refused, readDigits_eq_positional inBase]
    rfl

end HtmlJsx.Spelling
