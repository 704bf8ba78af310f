import HtmlJsx.Jsx.Property
import HtmlJsx.Proofs.RawEnd
import HtmlJsx.Proofs.Spelling
import Mathlib.Computability.RegularExpressions

/-!
# Numbers without quotes

A value that is judged an integer is written without quotes, as an expression
or as the value of a field.  It is a numeral with blanks around it, and the
numerals are given by two regular expressions: decimals, and zeros with the
mark of a base.  So all that can be brought into the output this way is blanks
and the few characters that occur in the expressions.
-/

namespace HtmlJsx.BareNumber

open Spelling
open RegularExpression (char star)

/-! ## The grammar of numerals -/

/-- Any one of some characters. -/
def oneOf : Text → RegularExpression Char
  | [] => 0
  | c :: rest => char c + oneOf rest

def digit : RegularExpression Char := oneOf "0123456789".toList

def digits : RegularExpression Char := digit * star digit

def optionalSign : RegularExpression Char := 1 + oneOf "+-".toList

def optionalFraction : RegularExpression Char := 1 + oneOf ".".toList * star digit

def optionalExponent : RegularExpression Char :=
  1 + oneOf "eE".toList * (optionalSign * digits)

/-- The decimals `[+-]?[0-9]+(\.[0-9]*)?([eE][+-]?[0-9]+)?`. -/
def decimal : RegularExpression Char :=
  optionalSign * (digits * (optionalFraction * optionalExponent))

/-- The zeros `0[xXoObB]0+`, such as `0x00`. -/
def zeroLiteral : RegularExpression Char :=
  oneOf "0".toList * (oneOf "xXoObB".toList * (oneOf "0".toList * star (oneOf "0".toList)))

def numeral : RegularExpression Char := decimal + zeroLiteral

/-- The characters that occur in a regular expression. -/
def alphabet : RegularExpression Char → List Char
  | .zero => []
  | .epsilon => []
  | .char c => [c]
  | .plus left right => alphabet left ++ alphabet right
  | .comp left right => alphabet left ++ alphabet right
  | .star body => alphabet body

theorem mem_alphabet {grammar : RegularExpression Char} {text : Text}
    (matched : text ∈ grammar.matches') : ∀ c ∈ text, c ∈ alphabet grammar := by
  induction grammar generalizing text with
  | zero => exact absurd matched (Language.notMem_zero text)
  | epsilon =>
    obtain rfl := (Language.mem_one text).mp matched
    exact nofun
  | char c =>
    obtain rfl : text = [c] := matched
    exact fun _ member => member
  | plus left right inductionLeft inductionRight =>
    intro c member
    rcases (Language.mem_add _ _ text).mp matched with inLeft | inRight
    · exact List.mem_append_left _ (inductionLeft inLeft c member)
    · exact List.mem_append_right _ (inductionRight inRight c member)
  | comp left right inductionLeft inductionRight =>
    obtain ⟨front, inLeft, back, inRight, rfl⟩ := Language.mem_mul.mp matched
    intro c member
    rcases List.mem_append.mp member with inFront | inBack
    · exact List.mem_append_left _ (inductionLeft inLeft c inFront)
    · exact List.mem_append_right _ (inductionRight inRight c inBack)
  | star body induction =>
    obtain ⟨words, rfl, inBody⟩ := Language.mem_kstar.mp matched
    intro c member
    obtain ⟨word, listed, inWord⟩ := List.mem_flatten.mp member
    exact induction (inBody word listed) c inWord

section Matching

variable {left right : RegularExpression Char} {front back text : Text}

theorem mul_matches (first : front ∈ left.matches') (second : back ∈ right.matches') :
    front ++ back ∈ (left * right).matches' :=
  Language.append_mem_mul first second

theorem add_matches_left (matched : text ∈ left.matches') : text ∈ (left + right).matches' :=
  (Language.mem_add _ _ text).mpr (.inl matched)

theorem add_matches_right (matched : text ∈ right.matches') : text ∈ (left + right).matches' :=
  (Language.mem_add _ _ text).mpr (.inr matched)

theorem nil_matches_optional : [] ∈ (1 + right).matches' :=
  add_matches_left ((Language.mem_one []).mpr rfl)

end Matching

theorem oneOf_matches {chars : Text} {c : Char} (member : c ∈ chars) :
    [c] ∈ (oneOf chars).matches' := by
  induction chars with
  | nil => cases member
  | cons first rest induction =>
    rw [oneOf]
    rcases List.mem_cons.mp member with rfl | later
    · exact add_matches_left rfl
    · exact add_matches_right (induction later)

theorem star_oneOf_matches {chars text : Text} (members : ∀ c ∈ text, c ∈ chars) :
    text ∈ (star (oneOf chars)).matches' := by
  rw [RegularExpression.matches'_star, Language.mem_kstar]
  refine ⟨text.map fun c => [c], (List.flatMap_singleton' text).symm, ?_⟩
  intro word listed
  obtain ⟨c, member, rfl⟩ := List.mem_map.mp listed
  exact oneOf_matches (members c member)

theorem some_oneOf_matches {chars text : Text} (nonempty : text ≠ [])
    (members : ∀ c ∈ text, c ∈ chars) :
    text ∈ (oneOf chars * star (oneOf chars)).matches' := by
  cases text with
  | nil => exact absurd rfl nonempty
  | cons c rest =>
    rw [List.forall_mem_cons] at members
    exact mul_matches (oneOf_matches members.1) (star_oneOf_matches members.2)

theorem mem_of_isDigit {c : Char} (isDigit : c.isDigit = true) : c ∈ "0123456789".toList := by
  have each : ∀ code < 58, (Char.ofNat code).isDigit = true →
      Char.ofNat code ∈ "0123456789".toList := by
    decide
  have bound : c.toNat < 58 := by
    simp only [Char.isDigit, Char.reduceVal, UInt32.le_iff_toNat_le, UInt32.reduceToNat,
      Bool.and_eq_true, decide_eq_true_eq] at isDigit
    exact Nat.lt_succ_of_le isDigit.2
  have holds := each c.toNat bound
  rw [Char.ofNat_toNat] at holds
  exact holds isDigit

/-! ## Decimals -/

theorem exists_sign (text : Text) :
    ∃ mark ∈ optionalSign.matches', text = mark ++ (splitSign text).2 := by
  unfold splitSign
  split
  · exact ⟨['-'], add_matches_right (oneOf_matches (by decide)), rfl⟩
  · exact ⟨['+'], add_matches_right (oneOf_matches (by decide)), rfl⟩
  · exact ⟨[], nil_matches_optional, rfl⟩

theorem digits_match {text : Text} (nonempty : text ≠ [])
    (allDigits : ∀ c ∈ text, c.isDigit = true) : text ∈ digits.matches' :=
  some_oneOf_matches nonempty fun c member => mem_of_isDigit (allDigits c member)

theorem isDigit_of_mem_takeWhile {text : Text} :
    ∀ c ∈ text.takeWhile Char.isDigit, c.isDigit = true :=
  List.all_eq_true.mp List.all_takeWhile

theorem exponent_matches {text : Text} {exponent : Int}
    (found : exponentPart? text = some exponent) : text ∈ optionalExponent.matches' := by
  cases text with
  | nil => exact nil_matches_optional
  | cons c rest =>
    rcases signed : splitSign rest with ⟨negative, unsigned⟩
    simp only [exponentPart?, signed, Option.ite_none_right_eq_some, Bool.or_eq_true,
      Option.ite_none_left_eq_some, not_or, Bool.not_eq_true, Bool.not_eq_eq_eq_not,
      Bool.not_true, Bool.not_eq_false, List.all_eq_true, List.isEmpty_eq_false_iff] at found
    obtain ⟨letter, ⟨nonempty, allDigits⟩, -⟩ := found
    obtain ⟨mark, isSign, split⟩ := exists_sign rest
    rw [signed] at split
    have marked : [c] ∈ (oneOf "eE".toList).matches' := by
      apply oneOf_matches
      rcases letter with rfl | rfl
      · decide
      · decide
    rw [split]
    exact add_matches_right (mul_matches marked
      (mul_matches isSign (digits_match nonempty allDigits)))

/-- A decimal that begins with a digit, perhaps after a sign, follows the grammar. -/
theorem decimal_matches {text : Text} {number : Binary64} (found : decimal? text = some number)
    (whole : (splitSign text).2.takeWhile Char.isDigit ≠ []) : text ∈ decimal.matches' := by
  obtain ⟨mark, isSign, split⟩ := exists_sign text
  rcases signed : splitSign text with ⟨negative, unsigned⟩
  rw [signed] at whole split
  simp only [decimal?, signed, Option.ite_none_left_eq_some, Option.map_eq_some_iff] at found
  obtain ⟨-, exponent, exponentFound, -⟩ := found
  have inWhole := digits_match whole isDigit_of_mem_takeWhile
  rw [split]
  apply mul_matches isSign
  rw [← @List.takeWhile_append_dropWhile _ Char.isDigit unsigned]
  apply mul_matches inWhole
  split at exponentFound
  · next more point =>
    have fraction : '.' :: more.takeWhile Char.isDigit ∈ optionalFraction.matches' := by
      apply add_matches_right
      apply mul_matches (oneOf_matches (by decide) : ['.'] ∈ (oneOf ".".toList).matches')
      exact star_oneOf_matches fun c member => mem_of_isDigit (isDigit_of_mem_takeWhile c member)
    rw [point, ← @List.takeWhile_append_dropWhile _ Char.isDigit more]
    exact mul_matches fraction (exponent_matches exponentFound)
  · exact @mul_matches _ _ [] _ nil_matches_optional (exponent_matches exponentFound)

/-! ## Zeros with the mark of a base -/

theorem eq_zero_of_digitValue {base : Nat} {c : Char} (inBase : isDigitIn base c = true)
    (zero : Binary64.readDigits.digitValue c = 0) : c = '0' := by
  have code : c.toNat = 48 := by
    simp only [isDigitIn, Char.isDigit, Bool.or_eq_true, Bool.and_eq_true, decide_eq_true_eq,
      Char.le_def, UInt32.le_iff_toNat_le, Char.reduceVal, UInt32.reduceToNat] at inBase
    simp only [Binary64.readDigits.digitValue, Char.toNat] at zero ⊢
    split at zero
    · omega
    split at zero
    · omega
    · omega
  rw [← Char.ofNat_toNat c, code]

/-- Digits that denote zero after a number has been begun are zeros, and so is the number. -/
theorem zeros_of_foldl {base : Nat} (positive : 0 < base) {text : Text}
    (inBase : ∀ c ∈ text, isDigitIn base c = true) {start : Nat}
    (zero : text.foldl (fun total c => total * base + Binary64.readDigits.digitValue c) start = 0) :
    start = 0 ∧ ∀ c ∈ text, c = '0' := by
  induction text generalizing start with
  | nil => exact ⟨zero, nofun⟩
  | cons c rest induction =>
    rw [List.forall_mem_cons] at inBase
    obtain ⟨begun, others⟩ := induction inBase.2 zero
    obtain ⟨scaled, value⟩ := Nat.add_eq_zero_iff.mp begun
    constructor
    · exact (Nat.mul_eq_zero.mp scaled).resolve_right (Nat.ne_of_gt positive)
    · rw [List.forall_mem_cons]
      exact ⟨eq_zero_of_digitValue inBase.1 value, others⟩

theorem zeroLiteral_matches {text : Text} (found : radix? text = some 0) :
    text ∈ zeroLiteral.matches' := by
  obtain ⟨letter, places, base, rfl, announced, nonempty, inBase, zero⟩ := radix?_eq_some found
  obtain ⟨isMark, positive⟩ := mark_of_baseOf? announced
  have zeros := (zeros_of_foldl positive (List.all_eq_true.mp inBase) zero).2
  have first : ['0'] ∈ (oneOf "0".toList).matches' := oneOf_matches (by decide)
  apply mul_matches first
  apply mul_matches (oneOf_matches isMark)
  apply some_oneOf_matches nonempty
  intro c member
  rw [zeros c member]
  decide

/-! ## The number and its start -/

theorem takeWhile_isDigit_append_blank (text : Text) {blanks : Text}
    (blank : blanks.isBlank = true) :
    (text ++ blanks).takeWhile Char.isDigit = text.takeWhile Char.isDigit := by
  induction text with
  | nil =>
    cases blanks with
    | nil => rfl
    | cons c rest =>
      rw [Text.isBlank_cons, Bool.and_eq_true] at blank
      simp [not_isDigit_of_isBlank blank.1]
  | cons c rest induction =>
    rw [List.cons_append, List.takeWhile_cons, List.takeWhile_cons, induction]

theorem splitSign_append {text : Text} (nonempty : text ≠ []) (more : Text) :
    splitSign (text ++ more) = ((splitSign text).1, (splitSign text).2 ++ more) := by
  cases text with
  | nil => exact absurd rfl nonempty
  | cons c rest =>
    by_cases minus : c = '-'
    · rw [minus]
      rfl
    · by_cases plus : c = '+'
      · rw [plus]
        rfl
      · simp [splitSign, minus, plus]

theorem isBlank_of_isAsciiBlank {c : Char} (ascii : isAsciiBlank c = true) : isBlank c = true := by
  simp only [isAsciiBlank, Bool.or_eq_true, beq_iff_eq, Bool.and_eq_true,
    decide_eq_true_eq] at ascii
  rcases ascii with rfl | bounds
  · decide
  · simp [isBlank, bounds]

theorem dropWhile_isAsciiBlank {text : Text} (first : ∀ c ∈ text.head?, isBlank c = false) :
    text.dropWhile isAsciiBlank = text := by
  cases text with
  | nil => rfl
  | cons c rest =>
    rw [List.dropWhile_cons, if_neg]
    intro ascii
    have blank := isBlank_of_isAsciiBlank ascii
    rw [first c rfl] at blank
    cases blank

/--
The blanks before an integer are ASCII blanks.  Behind them the integer is that
of the trimmed text, whose first digit stands right at its start or after a sign.
-/
theorem splitSign_trim_of_integerStart? {before after value : Text}
    (blankBefore : before.isBlank = true) (blankAfter : after.isBlank = true)
    (whole : value = before ++ Text.trim value ++ after) {negative : Bool} {places : Text}
    (start : integerStart? value = some (negative, places)) :
    before.all isAsciiBlank = true ∧ (splitSign (Text.trim value)).1 = negative ∧
      (splitSign (Text.trim value)).2.takeWhile Char.isDigit = places ∧ places ≠ [] := by
  have nonempty := trim_ne_nil_of_integerStart? start
  have first : ∀ c ∈ (Text.trim value ++ after).head?, isBlank c = false := by
    rw [List.head?_append_of_ne_nil _ nonempty]
    exact Text.solid_of_head?_trim value
  rw [whole, List.append_assoc] at start
  obtain ⟨ascii, later⟩ := integerStart?_blank_append blankBefore start
  rw [integerStart?, dropWhile_isAsciiBlank first, splitSign_append nonempty] at later
  dsimp only at later
  rw [takeWhile_isDigit_append_blank _ blankAfter] at later
  split at later
  · cases later
  · next begun =>
    cases later
    exact ⟨ascii, rfl, rfl, by simpa using begun⟩

/-! ## Integers -/

/-- An integer is a numeral between blanks, and the blanks before it are ASCII blanks. -/
theorem exists_numeral_of_isInteger {value : Text} (integer : isInteger value = .ok true) :
    ∃ before spelled after, value = before ++ spelled ++ after ∧
      before.all isAsciiBlank = true ∧ after.isBlank = true ∧ spelled ∈ numeral.matches' := by
  obtain ⟨negative, places, number, start, valued, same⟩ := isInteger_eq_true integer
  obtain ⟨before, after, blankBefore, blankAfter, whole⟩ := Text.exists_eq_append_trim value
  obtain ⟨ascii, sign, begun, nonempty⟩ :=
    splitSign_trim_of_integerStart? blankBefore blankAfter whole start
  refine ⟨before, Text.trim value, after, whole, ascii, blankAfter, ?_⟩
  rcases value?_eq_some valued with empty | found | literal
  · exact absurd empty (trim_ne_nil_of_integerStart? start)
  · apply add_matches_left
    apply decimal_matches found
    rw [begun]
    exact nonempty
  · -- The integer at the start of the literal is its leading zero, so the literal is zero.
    obtain ⟨natural, found, rfl⟩ := literal
    obtain ⟨letter, more, -, shape, -⟩ := radix?_eq_some found
    rw [integerStart?_of_radix? found start, ← sign, shape] at same
    obtain rfl : natural = 0 := Binary64.same_zero_ofNat_iff.mp same
    exact add_matches_right (zeroLiteral_matches found)

/-! ## What an integer brings into the output -/

/-- The characters of numerals. -/
def numeralChars : Text := "0123456789+-.eExXoObB".toList

/-- The letters among them. -/
def numeralLetters : Text := "eExXoObB".toList

/-- The characters that could end an expression or a field, or begin other code. -/
def codeChars : Text := "'\"`\x7b\x7d,;\\<>".toList

theorem alphabet_numeral_subset : alphabet numeral ⊆ numeralChars := by
  decide

theorem harmless_of_isBlank {c : Char} (blank : isBlank c = true) :
    c ∉ codeChars ∧ (c.isAlpha = true → c ∈ numeralLetters) := by
  constructor
  · intro member
    have solid : codeChars.all (fun c => !isBlank c) = true := by decide
    have notBlank := List.all_eq_true.mp solid c member
    rw [blank] at notBlank
    cases notBlank
  · intro letter
    rw [(Lexer.solid_of_isAlpha letter).1] at blank
    cases blank

theorem harmless_of_mem_numeralChars {c : Char} (member : c ∈ numeralChars) :
    c ∉ codeChars ∧ (c.isAlpha = true → c ∈ numeralLetters) := by
  have each : numeralChars.all (fun c =>
      decide (c ∉ codeChars ∧ (c.isAlpha = true → c ∈ numeralLetters))) = true := by
    decide
  exact of_decide_eq_true (List.all_eq_true.mp each c member)

theorem isBlank_or_mem_numeralChars {value : Text} (integer : isInteger value = .ok true) :
    ∀ c ∈ value, isBlank c = true ∨ c ∈ numeralChars := by
  obtain ⟨before, spelled, after, rfl, ascii, blank, matched⟩ :=
    exists_numeral_of_isInteger integer
  intro c member
  rw [List.mem_append, List.mem_append] at member
  rcases member with (inBefore | inSpelled) | inAfter
  · exact Or.inl (isBlank_of_isAsciiBlank (List.all_eq_true.mp ascii c inBefore))
  · exact Or.inr (alphabet_numeral_subset (mem_alphabet matched c inSpelled))
  · exact Or.inl (List.all_eq_true.mp blank c inAfter)

theorem valuePart_of_isInteger (name : Text) {value : Text}
    (integer : isInteger value = .ok true) :
    Property.valuePart name value = .ok ('=' :: '{' :: value ++ ['}']) := by
  rw [Property.valuePart, integer]
  rfl

theorem fieldValue_of_isInteger {value : Text} (integer : isInteger value = .ok true) :
    Style.fieldValue value = .ok value := by
  rw [Style.fieldValue, integer]
  rfl

/--
A value that is judged an integer is a numeral between blanks.  It is written
without quotes, as it stands, and brings no character of other code along.
-/
theorem numeral_of_isInteger {value : Text} (integer : isInteger value = .ok true) :
    (∃ before spelled after, value = before ++ spelled ++ after ∧
      before.all isAsciiBlank = true ∧ after.isBlank = true ∧ spelled ∈ numeral.matches') ∧
    (∀ name, Property.valuePart name value = .ok ('=' :: '{' :: value ++ ['}'])) ∧
    Style.fieldValue value = .ok value ∧
    ∀ c ∈ value, (isBlank c = true ∨ c ∈ numeralChars) ∧ c ∉ codeChars ∧
      (c.isAlpha = true → c ∈ numeralLetters) := by
  refine ⟨exists_numeral_of_isInteger integer, fun name => valuePart_of_isInteger name integer,
    fieldValue_of_isInteger integer, ?_⟩
  intro c member
  have allowed := isBlank_or_mem_numeralChars integer c member
  refine ⟨allowed, ?_⟩
  rcases allowed with blank | inNumeral
  · exact harmless_of_isBlank blank
  · exact harmless_of_mem_numeralChars inNumeral

/-- A decimal between a tabulator and an ideographic space, and a zero in base sixteen. -/
theorem numeral_of_isInteger_decimal_and_zero :
    isInteger "\t-70.0e0\u3000".toList = .ok true ∧ isInteger "0X000".toList = .ok true ∧
    Style.fieldValue "\t-70.0e0\u3000".toList = .ok "\t-70.0e0\u3000".toList ∧
    Property.valuePart "width".toList "0X000".toList = .ok "=\x7b0X000\x7d".toList := by
  have decimalJudged : isInteger "\t-70.0e0\u3000".toList = .ok true := by decide +kernel
  have zeroJudged : isInteger "0X000".toList = .ok true := by decide +kernel
  exact ⟨decimalJudged, zeroJudged, (numeral_of_isInteger decimalJudged).2.2.1,
    (numeral_of_isInteger zeroJudged).2.1 "width".toList⟩

end HtmlJsx.BareNumber
