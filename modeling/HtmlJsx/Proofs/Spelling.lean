import HtmlJsx.Proofs.Binary64
import HtmlJsx.Proofs.Layout

/-!
# Judging numbers

A text that denotes a number consists of blanks, letters, digits, signs and
points.  So an integer that is written without quotes brings no quote and no
brace into the output.

There are two kinds of texts on which the judgement fails: decimals with more
digits at their start than are read as an integer, and literals with a base
whose natural is beyond all finite numbers.
-/

namespace HtmlJsx.Spelling

/-- Whether a character may belong to a number. -/
def isNumeralChar (c : Char) : Bool :=
  c.isDigit || ('a' ≤ c && c ≤ 'z') || ('A' ≤ c && c ≤ 'Z') || c == '+' || c == '-' || c == '.'

theorem isNumeralChar_of_isDigit {c : Char} (digit : c.isDigit = true) :
    isNumeralChar c = true := by
  simp [isNumeralChar, digit]

/-- Splitting off a sign loses a sign at most. -/
theorem mem_splitSign {text : Text} {c : Char} (member : c ∈ text) :
    isNumeralChar c = true ∨ c ∈ (splitSign text).2 := by
  unfold splitSign
  split
  · rcases List.mem_cons.mp member with rfl | member
    · exact Or.inl (by decide)
    · exact Or.inr member
  · rcases List.mem_cons.mp member with rfl | member
    · exact Or.inl (by decide)
    · exact Or.inr member
  · exact Or.inr member

/-- A character of a text belongs to the digits at its start or to what follows them. -/
theorem mem_digits_or_rest {text : Text} {c : Char} (member : c ∈ text) :
    isNumeralChar c = true ∨ c ∈ text.dropWhile Char.isDigit := by
  have whole : text.takeWhile Char.isDigit ++ text.dropWhile Char.isDigit = text :=
    List.takeWhile_append_dropWhile
  rw [← whole, List.mem_append] at member
  rcases member with member | member
  · have digit := List.all_eq_true.mp List.all_takeWhile c member
    exact Or.inl (isNumeralChar_of_isDigit digit)
  · exact Or.inr member

theorem isNumeralChar_of_exponentPart {text : Text} {exponent : Int}
    (found : exponentPart? text = some exponent) : ∀ c ∈ text, isNumeralChar c = true := by
  intro c member
  cases text with
  | nil => cases member
  | cons first rest =>
    rcases signed : splitSign rest with ⟨negative, digits⟩
    simp only [exponentPart?, signed, Option.ite_none_right_eq_some, Bool.or_eq_true,
      Option.ite_none_left_eq_some, not_or, Bool.not_eq_true, Bool.not_eq_eq_eq_not,
      Bool.not_true, Bool.not_eq_false, List.all_eq_true] at found
    obtain ⟨letter, ⟨-, allDigits⟩, -⟩ := found
    rcases List.mem_cons.mp member with rfl | member
    · rcases letter with rfl | rfl
      · decide
      · decide
    · rcases mem_splitSign member with sign | member
      · exact sign
      · rw [signed] at member
        exact isNumeralChar_of_isDigit (allDigits c member)

theorem isNumeralChar_of_decimal {text : Text} {number : Binary64}
    (found : decimal? text = some number) : ∀ c ∈ text, isNumeralChar c = true := by
  intro c member
  rcases mem_splitSign member with sign | member
  · exact sign
  rcases mem_digits_or_rest member with digit | member
  · exact digit
  rcases signed : splitSign text with ⟨negative, unsigned⟩
  rw [signed] at member
  simp only [decimal?, signed, Option.ite_none_left_eq_some, Option.map_eq_some_iff] at found
  obtain ⟨-, exponent, exponentFound, -⟩ := found
  split at exponentFound
  · next more point =>
    rw [point] at member
    rcases List.mem_cons.mp member with rfl | member
    · decide
    · rcases mem_digits_or_rest member with digit | member
      · exact digit
      · exact isNumeralChar_of_exponentPart exponentFound c member
  · exact isNumeralChar_of_exponentPart exponentFound c member

theorem isNumeralChar_of_isDigitIn {base : Nat} {c : Char} (digit : isDigitIn base c = true) :
    isNumeralChar c = true := by
  simp only [isDigitIn, Bool.or_eq_true, Bool.and_eq_true, decide_eq_true_eq] at digit
  rcases digit with ⟨decimal, -⟩ | ⟨-, letter | letter⟩
  · exact isNumeralChar_of_isDigit decimal
  · have last : c ≤ 'z' := Char.le_trans letter.2 (by decide)
    simp [isNumeralChar, letter.1, last]
  · have last : c ≤ 'Z' := Char.le_trans letter.2 (by decide)
    simp [isNumeralChar, letter.1, last]

theorem mark_of_baseOf? {letter : Char} {base : Nat} (announced : baseOf? letter = some base) :
    letter ∈ "xXoObB".toList ∧ 0 < base := by
  rw [baseOf?] at announced
  split at announced
  · next either =>
    cases announced
    rcases either with rfl | rfl <;> decide
  split at announced
  · next either =>
    cases announced
    rcases either with rfl | rfl <;> decide
  split at announced
  · next either =>
    cases announced
    rcases either with rfl | rfl <;> decide
  · cases announced

/-- The letter of a base belongs to numbers, but to no run of digits and to no decimal. -/
theorem letter_of_baseOf? {letter : Char} {base : Nat} (announced : baseOf? letter = some base) :
    isNumeralChar letter = true ∧ letter.isDigit = false ∧ letter ≠ '.' ∧
      ¬ (letter = 'e' ∨ letter = 'E') := by
  have each : "xXoObB".toList.all (fun letter => decide (isNumeralChar letter = true ∧
      letter.isDigit = false ∧ letter ≠ '.' ∧ ¬ (letter = 'e' ∨ letter = 'E'))) = true := by
    decide
  exact of_decide_eq_true (List.all_eq_true.mp each letter (mark_of_baseOf? announced).1)

/-- A literal with a base is a zero, the letter of the base, and digits. -/
theorem radix?_eq_some {text : Text} {natural : Nat} (found : radix? text = some natural) :
    ∃ letter digits base, text = '0' :: letter :: digits ∧ baseOf? letter = some base ∧
      digits ≠ [] ∧ digits.all (isDigitIn base) = true ∧
      Binary64.readDigits base digits = natural := by
  unfold radix? at found
  split at found
  · next letter digits =>
    split at found
    · next base announced =>
      split at found
      · cases found
      · next wellFormed =>
        rw [Bool.or_eq_true, not_or, Bool.not_eq_true', Bool.not_eq_false,
          List.isEmpty_iff] at wellFormed
        exact ⟨letter, digits, base, rfl, announced, wellFormed.1, wellFormed.2,
          Option.some.inj found⟩
    · cases found
  · cases found

theorem isNumeralChar_of_radix {text : Text} {natural : Nat}
    (found : radix? text = some natural) : ∀ c ∈ text, isNumeralChar c = true := by
  obtain ⟨letter, digits, base, rfl, announced, -, inBase, -⟩ := radix?_eq_some found
  intro c member
  rcases List.mem_cons.mp member with rfl | member
  · decide
  · rcases List.mem_cons.mp member with rfl | member
    · exact (letter_of_baseOf? announced).1
    · exact isNumeralChar_of_isDigitIn (List.all_eq_true.mp inBase c member)

/-- A number is denoted by blank text, by a decimal or by a literal with a base. -/
theorem value?_eq_some {text : Text} {number : Binary64}
    (found : value? text = .ok (some number)) :
    Text.trim text = [] ∨ decimal? (Text.trim text) = some number ∨
      ∃ natural, radix? (Text.trim text) = some natural ∧
        number = Binary64.ofNat false natural := by
  rw [value?] at found
  dsimp only at found
  split at found
  · next empty => exact Or.inl (List.isEmpty_iff.mp empty)
  · right
    split at found
    · next decimalFound =>
      cases found
      exact Or.inl decimalFound
    · split at found
      · next natural radixFound =>
        split at found
        · cases found
          exact Or.inr ⟨natural, radixFound, rfl⟩
        · cases found
      · cases found

/-- A text that denotes a number consists of blanks and characters of numbers. -/
theorem isNumeralChar_of_value {text : Text} {number : Binary64}
    (found : value? text = .ok (some number)) :
    ∀ c ∈ text, isBlank c = true ∨ isNumeralChar c = true := by
  obtain ⟨before, after, blankBefore, blankAfter, equal⟩ := Text.exists_eq_append_trim text
  intro c member
  rw [equal, List.mem_append, List.mem_append] at member
  rcases member with (member | member) | member
  · exact Or.inl (List.all_eq_true.mp blankBefore c member)
  · right
    rcases value?_eq_some found with empty | decimalFound | ⟨natural, radixFound, -⟩
    · rw [empty] at member
      cases member
    · exact isNumeralChar_of_decimal decimalFound c member
    · exact isNumeralChar_of_radix radixFound c member
  · exact Or.inl (List.all_eq_true.mp blankAfter c member)

/-- A text is an integer only if the number it denotes is the integer at its start. -/
theorem isInteger_eq_true {text : Text} (integer : isInteger text = .ok true) :
    ∃ negative places number, integerStart? text = some (negative, places) ∧
      value? text = .ok (some number) ∧
      (Binary64.ofNat negative (Binary64.readDigits 10 places)).same number = true := by
  rw [isInteger] at integer
  split at integer
  · cases integer
  · next negative places start =>
    split at integer
    · cases integer
    · cases integer
    · next number valued =>
      split at integer
      · cases integer
      · have judged := Except.ok.inj integer
        rw [Bool.and_eq_true] at judged
        exact ⟨negative, places, number, start, valued, judged.2⟩

/-- An integer consists of blanks and characters of numbers. -/
theorem isNumeralChar_of_isInteger {text : Text} (integer : isInteger text = .ok true) :
    ∀ c ∈ text, isBlank c = true ∨ isNumeralChar c = true := by
  obtain ⟨-, -, number, -, valued, -⟩ := isInteger_eq_true integer
  exact isNumeralChar_of_value valued

/-! ## Values that cannot be judged -/

/-- Whether a text is a decimal with more digits at its start than are read as an integer. -/
def HasTooManyDigits (text : Text) : Prop :=
  (decimal? (Text.trim text)).isSome = true ∧
    ∃ negative digits, integerStart? text = some (negative, digits) ∧ digitLimit < digits.length

/-- Whether a text is a literal with a base whose natural is beyond all finite numbers. -/
def IsTooLarge (text : Text) : Prop :=
  (integerStart? text).isSome = true ∧
    ∃ natural, radix? (Text.trim text) = some natural ∧ Binary64.overflowStart ≤ natural

theorem not_isDigit_of_isBlank {c : Char} (blank : isBlank c = true) : c.isDigit = false := by
  rw [Bool.eq_false_iff]
  intro digit
  simp only [Char.isDigit, Char.reduceVal, UInt32.le_iff_toNat_le, UInt32.reduceToNat, ge_iff_le,
    Bool.and_eq_true, decide_eq_true_eq] at digit
  simp only [isBlank, Char.toNat, Bool.or_eq_true, Bool.and_eq_true, decide_eq_true_eq,
    beq_iff_eq] at blank
  omega

/-- A blank before an integer is an ASCII blank, and the integer is the same without it. -/
theorem integerStart?_cons_of_isBlank {c : Char} {text : Text} (blank : isBlank c = true)
    {start : Bool × Text} (found : integerStart? (c :: text) = some start) :
    isAsciiBlank c = true ∧ integerStart? text = some start := by
  rw [integerStart?, List.dropWhile_cons] at found
  cases ascii : isAsciiBlank c with
  | true =>
    rw [if_pos ascii] at found
    exact ⟨rfl, found⟩
  | false =>
    have minus : c ≠ '-' := ne_of_isBlank blank (by decide)
    have plus : c ≠ '+' := ne_of_isBlank blank (by decide)
    simp [ascii, splitSign, minus, plus, not_isDigit_of_isBlank blank] at found

/-- Blanks before an integer are ASCII blanks, and it is the same without them. -/
theorem integerStart?_blank_append {blanks text : Text} (blank : blanks.isBlank = true)
    {start : Bool × Text} (found : integerStart? (blanks ++ text) = some start) :
    blanks.all isAsciiBlank = true ∧ integerStart? text = some start := by
  induction blanks with
  | nil => exact ⟨rfl, found⟩
  | cons c rest induction =>
    rw [Text.isBlank_cons, Bool.and_eq_true] at blank
    obtain ⟨ascii, later⟩ := integerStart?_cons_of_isBlank blank.1 found
    obtain ⟨others, start⟩ := induction blank.2 later
    exact ⟨by rw [List.all_cons, ascii, others]; rfl, start⟩

/-- A text with an integer at its start is not blank. -/
theorem trim_ne_nil_of_integerStart? {text : Text} {start : Bool × Text}
    (found : integerStart? text = some start) : Text.trim text ≠ [] := by
  intro empty
  obtain ⟨before, after, blankBefore, blankAfter, equal⟩ := Text.exists_eq_append_trim text
  rw [empty, List.append_nil] at equal
  have nothing : integerStart? (before ++ after ++ []) = some start := by
    rw [List.append_nil, ← equal]
    exact found
  have blank : Text.isBlank (before ++ after) = true := by
    rw [Text.isBlank_append, blankBefore, blankAfter]
    rfl
  cases (integerStart?_blank_append blank nothing).2

/-- A literal with a base is no decimal. -/
theorem decimal?_of_radix? {text : Text} {natural : Nat} (found : radix? text = some natural) :
    decimal? text = none := by
  obtain ⟨letter, digits, base, rfl, announced, -⟩ := radix?_eq_some found
  obtain ⟨-, noDigit, noPoint, noExponent⟩ := letter_of_baseOf? announced
  have zero : '0'.isDigit = true := by decide
  simp [decimal?, splitSign, zero, noDigit, noPoint, exponentPart?, noExponent]

/-- The integer at the start of a literal with a base is its zero. -/
theorem integerStart?_of_radix? {text : Text} {natural : Nat}
    (found : radix? (Text.trim text) = some natural) {negative : Bool} {digits : Text}
    (start : integerStart? text = some (negative, digits)) : digits = ['0'] := by
  obtain ⟨before, after, blankBefore, -, equal⟩ := Text.exists_eq_append_trim text
  obtain ⟨letter, more, base, literal, announced, -⟩ := radix?_eq_some found
  have noDigit := (letter_of_baseOf? announced).2.1
  have zero : '0'.isDigit = true := by decide
  have solid : isAsciiBlank '0' = false := by decide
  rw [equal, List.append_assoc, literal] at start
  have begun : false = negative ∧ ['0'] = digits := by
    simpa [integerStart?, splitSign, solid, zero, noDigit] using
      (integerStart?_blank_append blankBefore start).2
  exact begun.2.symm

/-- The value of a text fails only for a literal with a base that is too large. -/
theorem value?_eq_error_iff {text : Text} {fault : NumberFault} :
    value? text = .error fault ↔
      fault = .tooLarge ∧ ∃ natural, radix? (Text.trim text) = some natural ∧
        Binary64.overflowStart ≤ natural := by
  rw [value?]
  constructor
  · intro failed
    dsimp only at failed
    split at failed
    · cases failed
    · split at failed
      · cases failed
      · split at failed
        · next natural found =>
          split at failed
          · cases failed
          · next infinite =>
            rw [Binary64.isFinite_ofNat_iff, Nat.not_lt] at infinite
            cases failed
            exact ⟨rfl, natural, found, infinite⟩
        · cases failed
  · rintro ⟨rfl, natural, found, large⟩
    have infinite : (Binary64.ofNat false natural).isFinite = false := by
      rw [← Bool.not_eq_true, Binary64.isFinite_ofNat_iff, Nat.not_lt]
      exact large
    have nonempty : (Text.trim text).isEmpty = false := by
      obtain ⟨letter, digits, base, literal, -⟩ := radix?_eq_some found
      rw [literal]
      rfl
    simp [nonempty, decimal?_of_radix? found, found, infinite]

/-- A text with more than one digit at its start denotes a number only as a decimal. -/
theorem isSome_value?_iff {text : Text} {negative : Bool} {digits : Text}
    (start : integerStart? text = some (negative, digits)) (several : 1 < digits.length)
    {number : Option Binary64} (valued : value? text = .ok number) :
    number.isSome = true ↔ (decimal? (Text.trim text)).isSome = true := by
  have nonempty : (Text.trim text).isEmpty = false := by
    rw [List.isEmpty_eq_false_iff]
    exact trim_ne_nil_of_integerStart? start
  have noLiteral : radix? (Text.trim text) = none := by
    cases literal : radix? (Text.trim text) with
    | none => rfl
    | some natural =>
      rw [integerStart?_of_radix? literal start] at several
      exact absurd several (Nat.lt_irrefl 1)
  cases decimal : decimal? (Text.trim text) with
  | none =>
    obtain rfl : none = number := by simpa [value?, nonempty, decimal, noLiteral] using valued
    rfl
  | some found =>
    obtain rfl : some found = number := by simpa [value?, nonempty, decimal] using valued
    rfl

theorem hasTooManyDigits_iff {text : Text} {negative : Bool} {digits : Text}
    (start : integerStart? text = some (negative, digits)) :
    HasTooManyDigits text ↔
      (decimal? (Text.trim text)).isSome = true ∧ digitLimit < digits.length := by
  constructor
  · rintro ⟨decimal, otherSign, otherDigits, found, many⟩
    rw [start] at found
    cases found
    exact ⟨decimal, many⟩
  · rintro ⟨decimal, many⟩
    exact ⟨decimal, negative, digits, start, many⟩

/-- Which values cannot be judged, and why. -/
theorem isInteger_eq_error_iff {text : Text} {fault : NumberFault} :
    isInteger text = .error fault ↔
      fault = .tooManyDigits ∧ HasTooManyDigits text ∨ fault = .tooLarge ∧ IsTooLarge text := by
  cases start : integerStart? text with
  | none => simp [isInteger, start, HasTooManyDigits, IsTooLarge]
  | some found =>
    obtain ⟨negative, digits⟩ := found
    cases valued : value? text with
    | error other =>
      obtain ⟨rfl, natural, literal, large⟩ := value?_eq_error_iff.mp valued
      have noDecimal := decimal?_of_radix? literal
      simp [isInteger, start, valued, HasTooManyDigits, IsTooLarge, noDecimal, literal, large,
        eq_comm]
    | ok number =>
      have small : ¬ IsTooLarge text := by
        rintro ⟨-, natural, literal, large⟩
        have failed : value? text = .error .tooLarge :=
          value?_eq_error_iff.mpr ⟨rfl, natural, literal, large⟩
        rw [valued] at failed
        cases failed
      rw [hasTooManyDigits_iff start]
      by_cases many : digitLimit < digits.length
      · have decimal := isSome_value?_iff start (Nat.lt_trans (by decide) many) valued
        cases number with
        | none =>
          have noDecimal : decimal? (Text.trim text) = none := by simpa using decimal
          simp [isInteger, start, valued, noDecimal, small]
        | some number =>
          have isDecimal : (decimal? (Text.trim text)).isSome = true := decimal.mp rfl
          simp [isInteger, start, valued, many, isDecimal, small, eq_comm]
      · cases number with
        | none => simp [isInteger, start, valued, many, small]
        | some number => simp [isInteger, start, valued, many, small]

end HtmlJsx.Spelling
