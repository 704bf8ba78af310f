import HtmlJsx.Proofs.Provenance
import Mathlib.Data.List.Basic

/-!
# Taking white space away from marked text

At the end of a conversion the output is trimmed, and the indentation of the
place where it was drawn is swept out: of every line break that is followed by
it only the line break is kept.  A sweep reads the output in steps, one
occurrence of the indentation or one other character at a time, and
`sweep_induction` is the induction over these steps.  Neither operation reaches
over a solid character.
-/

namespace HtmlJsx

namespace Traced

/-! ## Parts of a marked text -/

/-- A marked text of one origin is that of its characters. -/
theorem eq_of_uniform {origin : Origin} {traced : Traced}
    (uniform : ∀ glyph ∈ traced, glyph.origin = origin) : traced = of origin (plain traced) := by
  induction traced with
  | nil => rfl
  | cons glyph rest induction =>
    obtain ⟨rfl, others⟩ := List.forall_mem_cons.mp uniform
    rw [plain_cons, of_cons, ← induction others]

/-- A character of two parts is in the first or in the second. -/
theorem append_eq_append_cons {left right front rest : Traced} {glyph : Glyph}
    (split : left ++ right = front ++ glyph :: rest) :
    (∃ inner, left = front ++ glyph :: inner ∧ rest = inner ++ right) ∨
      ∃ inner, front = left ++ inner ∧ right = inner ++ glyph :: rest := by
  rcases List.append_eq_append_iff.mp split with ⟨inner, rfl, rfl⟩ | ⟨inner, rfl, tail⟩
  · exact .inr ⟨inner, rfl, rfl⟩
  · cases inner with
    | nil => exact .inr ⟨[], by simp, by simpa using tail.symm⟩
    | cons first inner =>
      obtain ⟨rfl, rfl⟩ := List.cons.inj tail
      exact .inl ⟨inner, rfl, rfl⟩

/-- Blanks at the end stand after every solid character. -/
theorem append_blanks_eq_append_solid {traced blanks front back : Traced} {solid : Glyph}
    (blank : ∀ glyph ∈ blanks, isBlankGlyph glyph = true) (visible : isBlankGlyph solid = false)
    (split : traced ++ blanks = front ++ solid :: back) :
    ∃ kept, traced = front ++ solid :: kept ∧ back = kept ++ blanks := by
  rcases append_eq_append_cons split with inTraced | ⟨inner, -, inBlanks⟩
  · exact inTraced
  · rw [blank solid (by simp [inBlanks])] at visible
    cases visible

/-- Blanks at the beginning stand before every solid character. -/
theorem blanks_append_eq_append_solid {traced blanks front back : Traced} {solid : Glyph}
    (blank : ∀ glyph ∈ blanks, isBlankGlyph glyph = true) (visible : isBlankGlyph solid = false)
    (split : blanks ++ traced = front ++ solid :: back) :
    ∃ kept, front = blanks ++ kept ∧ traced = kept ++ solid :: back := by
  rcases append_eq_append_cons split with ⟨inner, inBlanks, -⟩ | inTraced
  · rw [blank solid (by simp [inBlanks])] at visible
    cases visible
  · exact inTraced

/-! ## Sweeping -/

@[simp]
theorem sweepFrom_nil (pattern : Text) (skip : Nat) : sweepFrom pattern skip [] = [] := by
  cases skip <;> rfl

theorem sweepFrom_eq_drop (pattern : Text) (skip : Nat) (traced : Traced) :
    sweepFrom pattern skip traced = sweepFrom pattern 0 (traced.drop skip) := by
  induction traced generalizing skip with
  | nil => simp
  | cons glyph rest induction =>
    cases skip with
    | zero => rfl
    | succ skip =>
      rw [sweepFrom, List.drop_succ_cons]
      exact induction skip

/-- Of an occurrence of the pattern the first character is kept. -/
theorem sweepFrom_found {pattern : Text} {glyph : Glyph} {found : Traced}
    (shown : plain (glyph :: found) = pattern) (rest : Traced) :
    sweepFrom pattern 0 (glyph :: found ++ rest) = glyph :: sweepFrom pattern 0 rest := by
  have starts : pattern.isPrefixOf (glyph.char :: plain (found ++ rest)) = true := by
    rw [List.isPrefixOf_iff_prefix, ← shown, plain_append]
    exact List.prefix_append _ (plain rest)
  have size : pattern.length - 1 = found.length := by
    rw [← shown, length_plain, List.length_cons, Nat.add_sub_cancel]
  rw [List.cons_append, sweepFrom, if_pos starts, sweepFrom_eq_drop, size, List.drop_left]

theorem sweepFrom_passed {pattern : Text} {glyph : Glyph} {rest : Traced}
    (apart : ¬ pattern <+: plain (glyph :: rest)) :
    sweepFrom pattern 0 (glyph :: rest) = glyph :: sweepFrom pattern 0 rest := by
  rw [sweepFrom, if_neg]
  rw [List.isPrefixOf_iff_prefix]
  exact apart

/-- A sweep reads one occurrence of the pattern after the other, or one character. -/
theorem sweep_induction {pattern : Text} (nonempty : pattern ≠ []) {motive : Traced → Prop}
    (nil : motive [])
    (found : ∀ glyph tail rest, plain (glyph :: tail) = pattern → motive rest →
      motive (glyph :: tail ++ rest))
    (passed : ∀ glyph rest, ¬ pattern <+: plain (glyph :: rest) → motive rest →
      motive (glyph :: rest)) (traced : Traced) : motive traced := by
  induction size : traced.length using Nat.strongRecOn generalizing traced with
  | ind count induction =>
    cases traced with
    | nil => exact nil
    | cons glyph rest =>
      rw [List.length_cons] at size
      by_cases starts : pattern <+: plain (glyph :: rest)
      · obtain ⟨fewer, more⟩ : ∃ fewer, pattern.length = fewer + 1 :=
          Nat.exists_eq_succ_of_ne_zero (by simpa using nonempty)
        have shown : plain (glyph :: rest.take fewer) = pattern := by
          rw [← List.take_succ_cons, plain_take, ← more]
          exact (List.prefix_iff_eq_take.mp starts).symm
        rw [← List.take_append_drop fewer rest, ← List.cons_append]
        apply found _ _ _ shown
        exact induction _ (by rw [List.length_drop]; omega) _ rfl
      · apply passed _ _ starts
        exact induction _ (by omega) _ rfl

theorem sweepFrom_sublist {pattern : Text} (nonempty : pattern ≠ []) (traced : Traced) :
    (sweepFrom pattern 0 traced).Sublist traced := by
  induction traced using sweep_induction nonempty with
  | nil => exact List.Sublist.slnil
  | found glyph tail rest shown induction =>
    rw [sweepFrom_found shown]
    exact (induction.trans (List.sublist_append_right tail rest)).cons_cons glyph
  | passed glyph rest apart induction =>
    rw [sweepFrom_passed apart]
    exact induction.cons_cons glyph

/-- A blank pattern does not reach over a solid character. -/
theorem sweepFrom_append_solid {pattern : Text} (nonempty : pattern ≠ [])
    (blank : pattern.isBlank = true) {solid : Glyph} (visible : isBlankGlyph solid = false)
    (front back : Traced) :
    sweepFrom pattern 0 (front ++ solid :: back) =
      sweepFrom pattern 0 front ++ solid :: sweepFrom pattern 0 back := by
  induction front using sweep_induction nonempty with
  | nil =>
    rw [sweepFrom_nil, List.nil_append, List.nil_append, sweepFrom_passed]
    intro starts
    have short := (Text.prefix_append_solid_iff blank visible [] (plain back)).mp starts
    exact nonempty (List.prefix_nil.mp short)
  | found glyph tail rest shown induction =>
    rw [List.append_assoc, sweepFrom_found shown, sweepFrom_found shown, induction,
      List.cons_append]
  | passed glyph rest apart induction =>
    have still : ¬ pattern <+: plain (glyph :: (rest ++ solid :: back)) := by
      rw [← List.cons_append, plain_append, plain_cons solid,
        Text.prefix_append_solid_iff blank visible]
      exact apart
    rw [List.cons_append, sweepFrom_passed still, sweepFrom_passed apart, induction,
      List.cons_append]

section Unindent

variable {unit : Text}

theorem indentation_ne_nil : Conversion.indentation unit ≠ [] :=
  List.cons_ne_nil _ _

/-- A part that begins with a solid character is unindented apart from what stands before it. -/
theorem unindent_append_of_head (blank : unit.isBlank = true) (front : Traced) {part : Traced}
    (first : ∀ glyph ∈ part.head?, isBlankGlyph glyph = false) :
    unindent unit (front ++ part) = unindent unit front ++ unindent unit part := by
  cases part with
  | nil => simp [unindent]
  | cons solid rest =>
    have split := sweepFrom_append_solid indentation_ne_nil
      (Conversion.isBlank_indentation blank) (first solid rfl)
    have alone := split [] rest
    rw [List.nil_append, sweepFrom_nil, List.nil_append] at alone
    rw [unindent, unindent, unindent, split, alone]

/-- A part that ends with a solid character is unindented apart from what stands after it. -/
theorem unindent_append_of_last (blank : unit.isBlank = true) {part : Traced} (back : Traced)
    (last : ∀ glyph ∈ part.getLast?, isBlankGlyph glyph = false) :
    unindent unit (part ++ back) = unindent unit part ++ unindent unit back := by
  rcases List.eq_nil_or_concat part with rfl | ⟨before, solid, rfl⟩
  · simp [unindent]
  · rw [List.concat_eq_append, List.getLast?_concat] at last
    have split := sweepFrom_append_solid indentation_ne_nil
      (Conversion.isBlank_indentation blank) (last solid rfl)
    rw [List.concat_eq_append, List.append_assoc, List.singleton_append, unindent, unindent,
      unindent, split, split, sweepFrom_nil, List.append_assoc, List.cons_append,
      List.nil_append]

end Unindent

/-! ## Trimming -/

/-- Trimming takes off blanks on both sides. -/
theorem exists_eq_append_trim (traced : Traced) :
    ∃ before after : Traced, (∀ glyph ∈ before, isBlankGlyph glyph = true) ∧
      (∀ glyph ∈ after, isBlankGlyph glyph = true) ∧
      traced = before ++ trim traced ++ after := by
  let left := traced.dropWhile isBlankGlyph
  refine ⟨traced.takeWhile isBlankGlyph, (left.reverse.takeWhile isBlankGlyph).reverse, ?_, ?_, ?_⟩
  · intro glyph member
    exact List.all_eq_true.mp List.all_takeWhile glyph member
  · intro glyph member
    exact List.all_eq_true.mp List.all_takeWhile glyph (List.mem_reverse.mp member)
  · have right : left = trim traced ++ (left.reverse.takeWhile isBlankGlyph).reverse := by
      rw [trim, ← List.reverse_append, List.takeWhile_append_dropWhile, List.reverse_reverse]
    rw [List.append_assoc, ← right, List.takeWhile_append_dropWhile]

/-- Trimming works on the two sides of a part between solid characters separately. -/
theorem trim_append {part : Traced} (nonempty : part ≠ [])
    (first : ∀ glyph ∈ part.head?, isBlankGlyph glyph = false)
    (last : ∀ glyph ∈ part.getLast?, isBlankGlyph glyph = false) (front back : Traced) :
    trim (front ++ part ++ back) =
      front.dropWhile isBlankGlyph ++ part ++ (back.reverse.dropWhile isBlankGlyph).reverse := by
  have keeps (list : Traced) (edge : ∀ glyph ∈ list.head?, isBlankGlyph glyph = false) :
      list.dropWhile isBlankGlyph = list := by
    cases list with
    | nil => rfl
    | cons glyph rest => rw [List.dropWhile_cons_of_neg (by simp [edge glyph rfl])]
  have drops (before after : Traced) (some : after ≠ [])
      (edge : ∀ glyph ∈ after.head?, isBlankGlyph glyph = false) :
      (before ++ after).dropWhile isBlankGlyph = before.dropWhile isBlankGlyph ++ after := by
    rw [List.dropWhile_append]
    split
    · next empty => rw [List.isEmpty_iff.mp empty, List.nil_append, keeps after edge]
    · rfl
  have firstBack : ∀ glyph ∈ (part ++ back).head?, isBlankGlyph glyph = false := by
    rw [List.head?_append_of_ne_nil _ nonempty]
    exact first
  have lastFront : ∀ glyph ∈ (front.dropWhile isBlankGlyph ++ part).reverse.head?,
      isBlankGlyph glyph = false := by
    rw [List.head?_reverse, List.getLast?_append_of_ne_nil _ nonempty]
    exact last
  rw [trim, List.append_assoc, drops front (part ++ back) (by simp [nonempty]) firstBack,
    ← List.append_assoc, List.reverse_append, drops _ _ (by simp [nonempty]) lastFront,
    List.reverse_append, List.reverse_reverse]

/-- Nothing is added to an output when it gets its final form but the line break at its end. -/
theorem finish_sublist (unit : Text) (traced : Traced) :
    (finish unit traced).Sublist (traced ++ [⟨'\n', .ending⟩]) := by
  obtain ⟨before, after, -, -, whole⟩ := exists_eq_append_trim traced
  have trimmed : (trim traced).Sublist (before ++ trim traced ++ after) :=
    (List.sublist_append_right before _).trans (List.sublist_append_left _ after)
  rw [← whole] at trimmed
  exact (sweepFrom_sublist indentation_ne_nil _).trans (trimmed.append_right _)

end Traced

end HtmlJsx
