import HtmlJsx.Data.Numeric
import HtmlJsx.Proofs.BareNumber
import HtmlJsx.Proofs.NumericLiteral

/-!
# Spellings of integers

An integer may be spelled with a sign, with leading zeros, and with blanks
around it.  There are two ways from such a spelling to a number: as a decimal,
and as a natural that is made a number afterwards.  Both round correctly, so
they agree, and what is left of the judgement is whether the natural is below
the limit from which on naturals are infinite.
-/

namespace HtmlJsx.Spelling

open BareNumber (splitSign_append takeWhile_isDigit_append_blank dropWhile_isAsciiBlank
  isBlank_of_isAsciiBlank)

/-! ## Blanks around a number -/

theorem toNat_of_isNumeralChar {c : Char} (numeral : isNumeralChar c = true) :
    43 ≤ c.toNat ∧ c.toNat ≤ 122 := by
  simp only [isNumeralChar, Char.isDigit, Bool.or_eq_true, Bool.and_eq_true, decide_eq_true_eq,
    beq_iff_eq, Char.le_def, UInt32.le_iff_toNat_le, Char.reduceVal, UInt32.reduceToNat] at numeral
  rw [Char.toNat]
  rcases numeral with ((((digit | letter) | letter) | rfl) | rfl) | rfl
  · omega
  · omega
  · omega
  all_goals decide

theorem isBlank_of_isNumeralChar {c : Char} (numeral : isNumeralChar c = true) :
    isBlank c = false := by
  have bounds := toNat_of_isNumeralChar numeral
  rw [← Bool.not_eq_true]
  intro blank
  simp only [isBlank, Bool.or_eq_true, Bool.and_eq_true, decide_eq_true_eq, beq_iff_eq] at blank
  omega

section Between

variable {before core after : Text} (ascii : before.all isAsciiBlank = true)
  (blank : after.isBlank = true) (nonempty : core ≠ [])
  (numeral : ∀ c ∈ core, isNumeralChar c = true)

include nonempty numeral

theorem trim_between (blankBefore : before.isBlank = true) (blank : after.isBlank = true) :
    Text.trim (before ++ core ++ after) = core :=
  Text.trim_eq blankBefore blank
    (fun c edge => isBlank_of_isNumeralChar (numeral c (List.mem_of_mem_head? edge)))
    (fun c edge => isBlank_of_isNumeralChar (numeral c (List.mem_of_mem_getLast? edge))) nonempty

theorem trim_numeral : Text.trim core = core := by
  have between := @trim_between [] core [] nonempty numeral rfl rfl
  rwa [List.nil_append, List.append_nil] at between

include ascii blank

theorem integerStart?_between :
    integerStart? (before ++ core ++ after) = integerStart? core := by
  have solid : ∀ c ∈ core.head?, isBlank c = false :=
    fun c edge => isBlank_of_isNumeralChar (numeral c (List.mem_of_mem_head? edge))
  have solidAfter : ∀ c ∈ (core ++ after).head?, isBlank c = false := by
    rw [List.head?_append_of_ne_nil _ nonempty]
    exact solid
  rw [integerStart?, integerStart?, List.append_assoc,
    List.dropWhile_append_of_pos (List.all_eq_true.mp ascii), dropWhile_isAsciiBlank solidAfter,
    dropWhile_isAsciiBlank solid, splitSign_append nonempty]
  dsimp only
  rw [takeWhile_isDigit_append_blank _ blank]

/-- Blanks around a number do not count, if those before it are ASCII blanks. -/
theorem isInteger_between : isInteger (before ++ core ++ after) = isInteger core := by
  have blankBefore : before.isBlank = true :=
    List.all_eq_true.mpr fun c member =>
      isBlank_of_isAsciiBlank (List.all_eq_true.mp ascii c member)
  have trimmed := trim_between nonempty numeral blankBefore blank
  rw [isInteger, isInteger, integerStart?_between ascii blank nonempty numeral, value?, value?,
    trimmed, trim_numeral nonempty numeral]

end Between

/-! ## Decimal literals -/

namespace DecimalLiteral

variable (literal : DecimalLiteral)

theorem isNumeralChar_text : ∀ c ∈ literal.text, isNumeralChar c = true :=
  isNumeralChar_of_decimal literal.decimal?_text

theorem text_ne_nil : literal.text ≠ [] := by
  intro empty
  have read := literal.decimal?_text
  rw [empty] at read
  cases read

theorem integerStart?_text (begun : literal.whole ≠ []) :
    integerStart? literal.text = some (literal.sign.isNegative, literal.whole) := by
  have solid : ∀ c ∈ literal.text.head?, isBlank c = false :=
    fun c edge =>
      isBlank_of_isNumeralChar (literal.isNumeralChar_text c (List.mem_of_mem_head? edge))
  rw [integerStart?, dropWhile_isAsciiBlank solid, text,
    splitSign_append_text literal.sign literal.unsigned_rest]
  dsimp only
  rw [takeWhile_run literal.wholeDigits literal.undigited_rest]
  simp [begun]

theorem value?_text {number : Binary64} (read : decimal? literal.text = some number) :
    value? literal.text = .ok (some number) := by
  have trimmed := trim_numeral literal.text_ne_nil literal.isNumeralChar_text
  simp [value?, trimmed, literal.text_ne_nil, read]

/-- How a decimal literal with digits before the point is judged. -/
theorem isInteger_text (begun : literal.whole ≠ []) (few : literal.whole.length ≤ digitLimit)
    {number : Binary64} (read : decimal? literal.text = some number) :
    isInteger literal.text =
      .ok ((Binary64.ofNat literal.sign.isNegative (positional 10 literal.whole)).isFinite &&
        (Binary64.ofNat literal.sign.isNegative (positional 10 literal.whole)).same number) := by
  have start := readDigits_ten literal.wholeDigits
  simp only [isInteger, literal.integerStart?_text begun, literal.value?_text read, start,
    if_neg (Nat.not_lt.mpr few)]

end DecimalLiteral

/-! ## The limit -/

/-- A spelling of an integer: a sign and digits between blanks. -/
structure IntegerSpelling where
  before : Text
  sign : Sign
  digits : Text
  after : Text
  asciiBefore : before.all isAsciiBlank = true
  nonempty : digits ≠ []
  allDigits : ∀ c ∈ digits, c.isDigit = true
  blankAfter : after.isBlank = true

namespace IntegerSpelling

variable (spelling : IntegerSpelling)

def text : Text :=
  spelling.before ++ (spelling.sign.text ++ spelling.digits) ++ spelling.after

/-- The integer that is spelled. -/
def value : ℤ := spelling.sign.apply (positional 10 spelling.digits)

/-- The spelling without its blanks, as a decimal literal. -/
def literal : DecimalLiteral where
  sign := spelling.sign
  whole := spelling.digits
  wholeDigits := spelling.allDigits
  fractionDigits := fun _ member => absurd member List.not_mem_nil
  nonempty := .inl spelling.nonempty

theorem text_literal : spelling.literal.text = spelling.sign.text ++ spelling.digits := by
  rw [DecimalLiteral.text, DecimalLiteral.fractionText, DecimalLiteral.exponentText]
  simp [literal]

theorem value_literal : spelling.literal.value = positional 10 spelling.digits := by
  rw [DecimalLiteral.value, DecimalLiteral.exponentValue]
  simp [literal]

theorem natAbs_value : spelling.value.natAbs = positional 10 spelling.digits := by
  rw [value, Sign.apply]
  split
  · rw [Int.natAbs_neg, Int.natAbs_natCast]
  · rw [Int.natAbs_natCast]

end IntegerSpelling

theorem same_self_of_isFinite {number : Binary64} (finite : number.isFinite = true) :
    number.same number = true := by
  cases number with
  | nan => cases finite
  | infinite negative => cases finite
  | finite negative mantissa exponent => simp [Binary64.same]

/--
A spelling of an integer with no more digits than may be read is judged
without a fault, and is an integer exactly if it is below the limit.
-/
theorem isNumeric_integerSpelling (spelling : IntegerSpelling)
    (few : spelling.digits.length ≤ 4300) :
    Value.isNumeric (.text spelling.text) =
      .ok (decide (spelling.value.natAbs < 2 ^ 1024 - 2 ^ 970)) := by
  have limit : 2 ^ 1024 - 2 ^ 970 = Binary64.overflowStart := by decide +kernel
  let literal := spelling.literal
  obtain ⟨number, read, rounded⟩ := literal.exists_isRounded
  -- Both conversions round the same natural.
  obtain rfl :
      Binary64.ofNat spelling.sign.isNegative (positional 10 spelling.digits) = number := by
    rw [spelling.value_literal] at rounded
    exact (Binary64.isRounded_ofNat _ _).unique rounded
  have judged := literal.isInteger_text spelling.nonempty few read
  have between := isInteger_between spelling.asciiBefore spelling.blankAfter literal.text_ne_nil
    literal.isNumeralChar_text
  rw [spelling.text_literal] at between
  rw [Value.isNumeric, IntegerSpelling.text, between, ← spelling.text_literal, judged,
    spelling.natAbs_value, limit]
  apply congrArg Except.ok
  rw [Bool.eq_iff_iff, Bool.and_eq_true, decide_eq_true_eq, ← Binary64.isFinite_ofNat_iff]
  exact ⟨And.left, fun finite => ⟨finite, same_self_of_isFinite finite⟩⟩

/-- A natural with a minus sign and one more zero than it needs, between two blanks. -/
def IntegerSpelling.padded (natural : ℕ) : IntegerSpelling where
  before := ['\t']
  sign := .minus
  digits := '0' :: Nat.toDigits 10 natural
  after := ['\u3000']
  asciiBefore := rfl
  nonempty := List.cons_ne_nil _ _
  allDigits := List.forall_mem_cons.mpr
    ⟨rfl, fun _ member => Nat.isDigit_of_mem_toDigits (by decide) (by decide) member⟩
  blankAfter := rfl

/-- The integer right above the negative limit, and the limit itself. -/
theorem isNumeric_integerSpelling_atLimit :
    Value.isNumeric (.text (IntegerSpelling.padded (2 ^ 1024 - 2 ^ 970 - 1)).text) = .ok true ∧
    Value.isNumeric (.text (IntegerSpelling.padded (2 ^ 1024 - 2 ^ 970)).text) = .ok false := by
  have facts :
      ((IntegerSpelling.padded (2 ^ 1024 - 2 ^ 970 - 1)).digits.length ≤ 4300 ∧
        (IntegerSpelling.padded (2 ^ 1024 - 2 ^ 970 - 1)).value.natAbs < 2 ^ 1024 - 2 ^ 970) ∧
      (IntegerSpelling.padded (2 ^ 1024 - 2 ^ 970)).digits.length ≤ 4300 ∧
        ¬ (IntegerSpelling.padded (2 ^ 1024 - 2 ^ 970)).value.natAbs < 2 ^ 1024 - 2 ^ 970 := by
    decide +kernel
  obtain ⟨⟨fewBelow, below⟩, fewAt, atLimit⟩ := facts
  rw [isNumeric_integerSpelling _ fewBelow, isNumeric_integerSpelling _ fewAt,
    decide_eq_true below, decide_eq_false atLimit]
  exact ⟨rfl, rfl⟩

end HtmlJsx.Spelling
