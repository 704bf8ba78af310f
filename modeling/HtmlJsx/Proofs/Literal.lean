import HtmlJsx.Data.Json
import HtmlJsx.Text.Literal

/-!
# String literals are read back

A text written as a double-quoted literal is read by the reader of JSON
strings as that text again, and the reader stops right after the closing
quote, whatever follows.
-/

namespace HtmlJsx.Json

/-- Four hexadecimal digits are read as the control character they were written for. -/
theorem codeUnit?_hexDigits {number : Nat} (control : number < 32) (next : Char) (rest : Text) :
    codeUnit? (Text.hexDigits 4 number ++ next :: rest) = some (number, next :: rest) := by
  have digits : ∀ number < 32, (Text.hexDigits 4 number).all Text.isHexDigit = true ∧
      Binary64.readDigits 16 (Text.hexDigits 4 number) = number := by
    decide
  obtain ⟨hexadecimal, value⟩ := digits number control
  simp only [Text.hexDigits, List.nil_append, List.cons_append] at hexadecimal value ⊢
  rw [codeUnit?, if_pos hexadecimal, value]

/-- A control character is no half of a pair, so its escape is read alone. -/
theorem codeEscape_hexDigits {c : Char} (control : c.toNat < 32) (next : Char) (rest : Text) :
    codeEscape (Text.hexDigits 4 c.toNat ++ next :: rest) = .ok (c, next :: rest) := by
  have noHigh : isHighHalf c.toNat = false := by
    simp only [isHighHalf, Bool.and_eq_false_iff, decide_eq_false_iff_not]
    omega
  have noLow : isLowHalf c.toNat = false := by
    simp only [isLowHalf, Bool.and_eq_false_iff, decide_eq_false_iff_not]
    omega
  have same : charOfCode c.toNat = c := by
    rw [charOfCode, noHigh, noLow]
    exact Char.ofNat_toNat c
  rw [codeEscape, codeUnit?_hexDigits control]
  dsimp only
  split
  · rw [noHigh, Bool.false_and, if_neg Bool.false_ne_true, same]
  · rw [same]

/-- What is written for a character is read as the character. -/
theorem stringFrom_literalChar (start fuel : Nat) (content : Text) (c next : Char) (rest : Text) :
    stringFrom start (fuel + 1) content (Text.literalChar c ++ next :: rest) =
      stringFrom start fuel (c :: content) (next :: rest) := by
  rw [Text.literalChar]
  split
  · next quote => subst quote; rfl
  split
  · next backslash => subst backslash; rfl
  split
  · next newline => subst newline; rfl
  split
  · next carriage => subst carriage; rfl
  split
  · next tab => subst tab; rfl
  split
  · next feed =>
    obtain rfl : c = Char.ofNat 12 := by rw [← feed, Char.ofNat_toNat]
    rfl
  split
  · next back =>
    obtain rfl : c = Char.ofNat 8 := by rw [← back, Char.ofNat_toNat]
    rfl
  split
  · next control =>
    change codeEscape (Text.hexDigits 4 c.toNat ++ next :: rest) >>= _ = _
    rw [codeEscape_hexDigits control]
    rfl
  · next quote backslash _ _ _ _ _ printable =>
    rw [List.singleton_append, stringFrom.eq_def]
    dsimp only
    rw [if_neg quote, if_neg backslash, if_neg printable]

theorem stringFrom_literal (start : Nat) {fuel : Nat} (content text rest : Text)
    (enough : text.length < fuel) :
    stringFrom start fuel content (text.flatMap Text.literalChar ++ '"' :: rest) =
      .ok (content.reverse ++ text, rest) := by
  induction text generalizing fuel content with
  | nil =>
    obtain ⟨fuel, rfl⟩ := Nat.exists_eq_succ_of_ne_zero (Nat.ne_of_gt enough)
    rw [List.append_nil]
    rfl
  | cons c text induction =>
    obtain ⟨fuel, rfl⟩ := Nat.exists_eq_succ_of_ne_zero (Nat.ne_zero_of_lt enough)
    -- One more character follows in any case, at the latest the closing quote.
    obtain ⟨next, more, follows⟩ : ∃ next more,
        text.flatMap Text.literalChar ++ '"' :: rest = next :: more :=
      List.exists_cons_of_ne_nil (by simp)
    rw [List.flatMap_cons, List.append_assoc, follows, stringFrom_literalChar, ← follows,
      induction (c :: content) (Nat.lt_of_succ_lt_succ enough), List.reverse_cons,
      List.append_assoc, List.singleton_append]

theorem length_le_flatMap_literalChar (text : Text) :
    text.length ≤ (text.flatMap Text.literalChar).length := by
  induction text with
  | nil => exact Nat.le_refl 0
  | cons c text induction =>
    have written : 1 ≤ (Text.literalChar c).length := by
      rw [Text.literalChar]
      repeat' split
      all_goals simp
    rw [List.flatMap_cons, List.length_append, List.length_cons]
    omega

/-- A literal is read as the text it was written for, up to its closing quote. -/
theorem string_literal (text rest : Text) :
    string (text.flatMap Text.literalChar ++ '"' :: rest) = .ok (text, rest) := by
  have bound := length_le_flatMap_literalChar text
  apply stringFrom_literal
  rw [List.length_append]
  omega

end HtmlJsx.Json
