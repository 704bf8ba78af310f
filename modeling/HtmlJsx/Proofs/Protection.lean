import HtmlJsx.Proofs.Sweeping
import Mathlib.Data.List.Chain

/-!
# Protected characters

A protection singles out some characters of an output by their origin, such as
the values between quotes.  What the final form of the output does to them
depends on one fact only: no protected blank stands beside an unprotected
character or at an end of the output.  Then every run of protected characters
lies between solid ones and is treated on its own, and none of them is lost
exactly if they nowhere spell the indentation.
-/

namespace HtmlJsx

namespace FinalForm

open Outcome Traced

/-! ## Protected characters -/

/--
A choice of characters to be protected, by their origin.  Text and layout are
not protected, start tags and end tags only together, and a tag only with the
values in it and with comments.
-/
structure Protection where
  covers : Origin → Bool
  covers_text : covers .text = false
  covers_layout : ∀ opened, covers (.layout opened) = false
  covers_ending : covers .ending = false
  covers_endTag : covers .endTag = covers .startTag
  covers_within : covers .startTag = true → covers .value = true ∧ covers .comment = true

namespace Protection

/-- The protection of values between quotes and of comments. -/
def quotations : Protection where
  covers origin := origin = .value || origin = .comment
  covers_text := rfl
  covers_layout _ := by simp
  covers_ending := rfl
  covers_endTag := rfl
  covers_within := by simp

/-- The protection of tags and comments, that is, of everything but text and its layout. -/
def markup : Protection where
  covers origin := origin = .startTag || origin = .endTag || origin = .value || origin = .comment
  covers_text := rfl
  covers_layout _ := by simp
  covers_ending := rfl
  covers_endTag := rfl
  covers_within _ := ⟨rfl, rfl⟩

/-- Whether a character is protected. -/
def keeps (protection : Protection) (glyph : Glyph) : Bool :=
  protection.covers glyph.origin

/-- Of two neighbours of which one is protected, that one is solid. -/
def Borders (protection : Protection) (left right : Glyph) : Prop :=
  (protection.keeps left = true → protection.keeps right = false → isBlankGlyph left = false) ∧
    (protection.keeps left = false → protection.keeps right = true → isBlankGlyph right = false)

/-- No protected blank stands beside an unprotected character or at an end. -/
structure Fenced (protection : Protection) (traced : Traced) : Prop where
  chain : traced.IsChain protection.Borders
  first : ∀ glyph ∈ traced.head?, protection.keeps glyph = true → isBlankGlyph glyph = false
  last : ∀ glyph ∈ traced.getLast?, protection.keeps glyph = true → isBlankGlyph glyph = false

variable {protection : Protection}

theorem borders_of_eq {left right : Glyph}
    (same : protection.keeps left = protection.keeps right) : protection.Borders left right := by
  constructor
  · intro kept unkept
    rw [same, unkept] at kept
    cases kept
  · intro unkept kept
    rw [same, kept] at unkept
    cases unkept

theorem chain_of_forall {traced : Traced} {kept : Bool}
    (all : ∀ glyph ∈ traced, protection.keeps glyph = kept) :
    traced.IsChain protection.Borders := by
  apply List.Pairwise.isChain
  apply List.Pairwise.imp_of_mem (R := fun _ _ => True)
  · intro left right inLeft inRight _
    apply borders_of_eq
    rw [all left inLeft, all right inRight]
  · exact List.pairwise_of_forall fun _ _ => trivial

namespace Fenced

theorem nil : protection.Fenced [] where
  chain := List.IsChain.nil
  first := by simp
  last := by simp

/-- Nothing has to be fenced where nothing is protected. -/
theorem of_unprotected {traced : Traced}
    (none : ∀ glyph ∈ traced, protection.keeps glyph = false) : protection.Fenced traced where
  chain := chain_of_forall none
  first glyph edge kept := by
    rw [none glyph (List.mem_of_mem_head? edge)] at kept
    cases kept
  last glyph edge kept := by
    rw [none glyph (List.mem_of_mem_getLast? edge)] at kept
    cases kept

/-- A part of one kind is fenced if its ends are solid. -/
theorem of_solid_ends {traced : Traced} {kept : Bool}
    (all : ∀ glyph ∈ traced, protection.keeps glyph = kept)
    (first : ∀ glyph ∈ traced.head?, isBlankGlyph glyph = false)
    (last : ∀ glyph ∈ traced.getLast?, isBlankGlyph glyph = false) :
    protection.Fenced traced where
  chain := chain_of_forall all
  first glyph edge _ := first glyph edge
  last glyph edge _ := last glyph edge

/-- Two fenced parts can stand side by side. -/
theorem append {left right : Traced} (fencedLeft : protection.Fenced left)
    (fencedRight : protection.Fenced right) : protection.Fenced (left ++ right) where
  chain := by
    apply List.isChain_append.mpr
    refine ⟨fencedLeft.chain, fencedRight.chain, ?_⟩
    intro before ends after starts
    exact ⟨fun kept _ => fencedLeft.last before ends kept,
      fun _ kept => fencedRight.first after starts kept⟩
  first glyph edge := by
    rw [List.head?_append] at edge
    rcases Option.or_eq_some_iff.mp edge with inLeft | ⟨-, inRight⟩
    · exact fencedLeft.first glyph inLeft
    · exact fencedRight.first glyph inRight
  last glyph edge := by
    rw [List.getLast?_append] at edge
    rcases Option.or_eq_some_iff.mp edge with inRight | ⟨-, inLeft⟩
    · exact fencedRight.last glyph inRight
    · exact fencedLeft.last glyph inLeft

/-- A fenced part can stand within a protected one, which must be fenced outside only. -/
theorem within {front middle back : Traced}
    (front_keeps : ∀ glyph ∈ front, protection.keeps glyph = true)
    (back_keeps : ∀ glyph ∈ back, protection.keeps glyph = true) (some : back ≠ [])
    (first : ∀ glyph ∈ (front ++ middle ++ back).head?, isBlankGlyph glyph = false)
    (last : ∀ glyph ∈ back.getLast?, isBlankGlyph glyph = false)
    (fenced : protection.Fenced middle)
    (head : ∀ glyph ∈ middle.head?, protection.keeps glyph = true)
    (final : ∀ glyph ∈ middle.getLast?, protection.keeps glyph = true) :
    protection.Fenced (front ++ middle ++ back) where
  chain := by
    apply List.isChain_append.mpr
    refine ⟨?_, chain_of_forall back_keeps, ?_⟩
    · apply List.isChain_append.mpr
      refine ⟨chain_of_forall front_keeps, fenced.chain, ?_⟩
      intro left ends right starts
      apply borders_of_eq
      rw [front_keeps left (List.mem_of_mem_getLast? ends), head right starts]
    · intro left ends right starts
      apply borders_of_eq
      rw [back_keeps right (List.mem_of_mem_head? starts)]
      rw [List.getLast?_append] at ends
      rcases Option.or_eq_some_iff.mp ends with inMiddle | ⟨-, inFront⟩
      · exact final left inMiddle
      · exact front_keeps left (List.mem_of_mem_getLast? inFront)
  first glyph edge _ := first glyph edge
  last glyph edge _ := by
    rw [List.getLast?_append_of_ne_nil _ some] at edge
    exact last glyph edge

/-- A blank at the beginning is not protected, and what follows it is fenced. -/
theorem of_cons_blank {glyph : Glyph} {rest : Traced} (blank : isBlankGlyph glyph = true)
    (fenced : protection.Fenced (glyph :: rest)) :
    protection.keeps glyph = false ∧ protection.Fenced rest := by
  have unkept : protection.keeps glyph = false := by
    rw [← Bool.not_eq_true]
    intro kept
    rw [fenced.first glyph rfl kept] at blank
    cases blank
  refine ⟨unkept, fenced.chain.tail, ?_, ?_⟩
  · intro next edge kept
    cases rest with
    | nil => cases edge
    | cons head tail =>
      cases edge
      exact (List.isChain_cons_cons.mp fenced.chain).1.2 unkept kept
  · intro final edge
    apply fenced.last final
    rw [List.getLast?_cons, Option.mem_def.mp edge]
    rfl

theorem of_blanks_append {blanks rest : Traced}
    (blank : ∀ glyph ∈ blanks, isBlankGlyph glyph = true)
    (fenced : protection.Fenced (blanks ++ rest)) :
    (∀ glyph ∈ blanks, protection.keeps glyph = false) ∧ protection.Fenced rest := by
  induction blanks with
  | nil => exact ⟨by simp, fenced⟩
  | cons glyph blanks induction =>
    obtain ⟨unkept, fenced⟩ := of_cons_blank (blank glyph (List.mem_cons_self ..)) fenced
    obtain ⟨others, fenced⟩ :=
      induction (fun other member => blank other (List.mem_cons_of_mem _ member)) fenced
    exact ⟨List.forall_mem_cons.mpr ⟨unkept, others⟩, fenced⟩

theorem reverse {traced : Traced} (fenced : protection.Fenced traced) :
    protection.Fenced traced.reverse where
  chain := by
    apply List.isChain_reverse.mpr
    apply fenced.chain.imp
    intro left right borders
    exact ⟨fun kept unkept => borders.2 unkept kept, fun unkept kept => borders.1 kept unkept⟩
  first glyph edge := fenced.last glyph (by rwa [List.head?_reverse] at edge)
  last glyph edge := fenced.first glyph (by rwa [List.getLast?_reverse] at edge)

/-- Blanks at the end are not protected, and what stands before them is fenced. -/
theorem of_append_blanks {rest blanks : Traced}
    (blank : ∀ glyph ∈ blanks, isBlankGlyph glyph = true)
    (fenced : protection.Fenced (rest ++ blanks)) :
    (∀ glyph ∈ blanks, protection.keeps glyph = false) ∧ protection.Fenced rest := by
  have backward := fenced.reverse
  rw [List.reverse_append] at backward
  obtain ⟨unkept, backward⟩ := of_blanks_append (by simpa using blank) backward
  refine ⟨by simpa using unkept, ?_⟩
  rw [← List.reverse_reverse rest]
  exact backward.reverse

/-- Taking off a blank unit leaves a fenced part fenced. -/
theorem trimSuffix {traced : Traced} {unit : Text} (blank : unit.isBlank = true)
    (fenced : protection.Fenced traced) : protection.Fenced (traced.trimSuffix unit) := by
  obtain ⟨removed, removedBlank, whole⟩ := exists_eq_trimSuffix_append traced blank
  rw [whole] at fenced
  exact (of_append_blanks removedBlank fenced).2

end Fenced

/-! ## Sweeping protected characters -/

/-- No stretch of protected characters spells the pattern. -/
def Avoids (protection : Protection) (pattern : Text) (traced : Traced) : Prop :=
  ∀ stretch : Traced, stretch <:+: traced → (∀ glyph ∈ stretch, protection.keeps glyph = true) →
    plain stretch ≠ pattern

/-- Blanks in a row are all protected or all unprotected. -/
theorem keeps_eq_of_blanks {glyph : Glyph} {blanks : Traced}
    (blank : ∀ other ∈ glyph :: blanks, isBlankGlyph other = true)
    (chain : (glyph :: blanks).IsChain protection.Borders) :
    ∀ other ∈ glyph :: blanks, protection.keeps other = protection.keeps glyph := by
  induction blanks generalizing glyph with
  | nil => simp
  | cons next blanks induction =>
    rw [List.forall_mem_cons] at blank
    obtain ⟨borders, chain⟩ := List.isChain_cons_cons.mp chain
    have same : protection.keeps next = protection.keeps glyph := by
      cases kept : protection.keeps glyph with
      | true =>
        cases further : protection.keeps next with
        | true => rfl
        | false => exact absurd blank.1 (by simp [borders.1 kept further])
      | false =>
        cases further : protection.keeps next with
        | true => exact absurd (blank.2 next (List.mem_cons_self ..)) (by simp [borders.2 kept further])
        | false => rfl
    rw [List.forall_mem_cons]
    refine ⟨rfl, ?_⟩
    intro other member
    rw [induction blank.2 chain other member, same]

theorem eq_nil_of_unprotected {stretch part : Traced} (within : stretch ⊆ part)
    (all : ∀ glyph ∈ stretch, protection.keeps glyph = true)
    (none : ∀ glyph ∈ part, protection.keeps glyph = false) : stretch = [] := by
  apply List.eq_nil_iff_forall_not_mem.mpr
  intro glyph member
  have kept := all glyph member
  rw [none glyph (within member)] at kept
  cases kept

/-- Unprotected characters on the left have no part in a protected stretch. -/
theorem avoids_append_left {pattern : Text} (nonempty : pattern ≠ []) {left right : Traced}
    (none : ∀ glyph ∈ left, protection.keeps glyph = false) :
    protection.Avoids pattern (left ++ right) ↔ protection.Avoids pattern right := by
  constructor
  · intro avoids stretch within
    exact avoids stretch (within.trans (List.suffix_append left right).isInfix)
  · intro avoids stretch within all
    rcases List.infix_append_iff.mp within with
      inLeft | inRight | ⟨before, after, rfl, suffix, starts⟩
    · rw [eq_nil_of_unprotected inLeft.subset all none]
      exact nonempty.symm
    · exact avoids stretch inRight all
    · rw [List.forall_mem_append] at all
      rw [eq_nil_of_unprotected suffix.subset all.1 none, List.nil_append]
      exact avoids after starts.isInfix all.2

theorem avoids_append_right {pattern : Text} (nonempty : pattern ≠ []) {left right : Traced}
    (none : ∀ glyph ∈ right, protection.keeps glyph = false) :
    protection.Avoids pattern (left ++ right) ↔ protection.Avoids pattern left := by
  constructor
  · intro avoids stretch within
    exact avoids stretch (within.trans (List.prefix_append left right).isInfix)
  · intro avoids stretch within all
    rcases List.infix_append_iff.mp within with
      inLeft | inRight | ⟨before, after, rfl, suffix, starts⟩
    · exact avoids stretch inLeft all
    · rw [eq_nil_of_unprotected inRight.subset all none]
      exact nonempty.symm
    · rw [List.forall_mem_append] at all
      rw [eq_nil_of_unprotected starts.subset all.2 none, List.append_nil]
      exact avoids before suffix.isInfix all.1

/-- A sweep takes no protected character exactly if no protected stretch spells its pattern. -/
theorem filter_sweepFrom_eq_iff {pattern : Text} (blank : pattern.isBlank = true)
    (long : 1 < pattern.length) {traced : Traced} (chain : traced.IsChain protection.Borders) :
    (sweepFrom pattern 0 traced).filter protection.keeps = traced.filter protection.keeps ↔
      protection.Avoids pattern traced := by
  have nonempty : pattern ≠ [] := List.ne_nil_of_length_pos (by omega)
  induction traced using sweep_induction nonempty with
  | nil =>
    simp only [sweepFrom_nil, true_iff]
    intro stretch within _
    rw [List.infix_nil.mp within]
    exact nonempty.symm
  | found glyph tail rest shown induction =>
    have blanks : ∀ other ∈ glyph :: tail, isBlankGlyph other = true := by
      intro other member
      apply List.all_eq_true.mp blank
      rw [← shown]
      exact List.mem_map_of_mem member
    have uniform := keeps_eq_of_blanks blanks chain.left_of_append
    rw [sweepFrom_found shown, List.filter_append]
    cases kept : protection.keeps glyph with
    | true =>
      -- All but the first character of the occurrence are lost, and nothing makes up for them.
      rw [kept] at uniform
      have fewer := ((sweepFrom_sublist nonempty rest).filter protection.keeps).length_le
      have size : (glyph :: tail).length = pattern.length := by
        rw [← shown, length_plain]
      constructor
      · intro same
        have lengths := congrArg List.length same
        rw [List.filter_cons_of_pos kept, List.length_append, List.filter_eq_self.mpr uniform,
          List.length_cons] at lengths
        omega
      · intro avoids
        exact absurd shown (avoids _ (List.prefix_append _ rest).isInfix uniform)
    | false =>
      rw [kept] at uniform
      have lost : (glyph :: tail).filter protection.keeps = [] := by
        apply List.filter_eq_nil_iff.mpr
        intro other member
        simp [uniform other member]
      rw [List.filter_cons_of_neg (by simp [kept]), lost, List.nil_append,
        avoids_append_left nonempty uniform]
      exact induction chain.right_of_append
  | passed glyph rest apart induction =>
    have later : protection.Avoids pattern (glyph :: rest) ↔ protection.Avoids pattern rest := by
      constructor
      · intro avoids stretch within
        exact avoids stretch (within.trans (List.suffix_cons glyph rest).isInfix)
      · intro avoids stretch within all
        rcases List.infix_cons_iff.mp within with starts | inRest
        · rintro rfl
          exact apart (starts.map Glyph.char)
        · exact avoids stretch inRest all
    rw [sweepFrom_passed apart, later, List.filter_cons, List.filter_cons]
    split
    · rw [List.cons_inj_right]
      exact induction chain.tail
    · exact induction chain.tail

/-! ## The final form of protected characters -/

theorem indentation_length {unit : Text} (some : unit ≠ []) :
    1 < (Conversion.indentation unit).length := by
  have size := List.length_pos_iff.mpr some
  rw [Conversion.indentation, List.length_cons, Text.copies, List.length_flatten]
  simp only [Conversion.bodyLevels, List.map_replicate, List.sum_replicate_nat]
  omega

/-- The final form is that of the part between the blanks at the ends. -/
theorem Fenced.exists_core {traced : Traced} (fenced : protection.Fenced traced) :
    ∃ before core after : Traced, traced = before ++ core ++ after ∧
      (∀ glyph ∈ before, protection.keeps glyph = false) ∧
      (∀ glyph ∈ after, protection.keeps glyph = false) ∧
      protection.Fenced core ∧
      ∀ unit, finish unit traced = unindent unit (core ++ [⟨'\n', .ending⟩]) := by
  obtain ⟨before, after, blankBefore, blankAfter, whole⟩ := exists_eq_append_trim traced
  have parts := fenced
  rw [whole] at parts
  obtain ⟨bareAfter, parts⟩ := Fenced.of_append_blanks blankAfter parts
  obtain ⟨bareBefore, core⟩ := Fenced.of_blanks_append blankBefore parts
  exact ⟨before, trim traced, after, whole, bareBefore, bareAfter, core, fun _ => rfl⟩

/-- The final form takes no protected character exactly if none spell the indentation. -/
theorem filter_finish_eq_iff {unit : Text} (some : unit ≠ []) (blank : unit.isBlank = true)
    {traced : Traced} (fenced : protection.Fenced traced) :
    (finish unit traced).filter protection.keeps = traced.filter protection.keeps ↔
      protection.Avoids (Conversion.indentation unit) traced := by
  obtain ⟨before, core, after, rfl, bareBefore, bareAfter, fencedCore, final⟩ := fenced.exists_core
  have bareEnding : ∀ glyph ∈ [(⟨'\n', .ending⟩ : Glyph)], protection.keeps glyph = false := by
    intro glyph member
    rw [List.mem_singleton.mp member]
    exact protection.covers_ending
  have dropped {part : Traced} (bare : ∀ glyph ∈ part, protection.keeps glyph = false) :
      part.filter protection.keeps = [] := by
    apply List.filter_eq_nil_iff.mpr
    intro glyph member
    simp [bare glyph member]
  have avoids : protection.Avoids (Conversion.indentation unit) (before ++ core ++ after) ↔
      protection.Avoids (Conversion.indentation unit) (core ++ [⟨'\n', .ending⟩]) := by
    rw [avoids_append_right indentation_ne_nil bareAfter,
      avoids_append_left indentation_ne_nil bareBefore,
      avoids_append_right indentation_ne_nil bareEnding]
  have filtered : (before ++ core ++ after).filter protection.keeps =
      (core ++ [(⟨'\n', .ending⟩ : Glyph)]).filter protection.keeps := by
    rw [List.filter_append, List.filter_append, List.filter_append, dropped bareBefore,
      dropped bareAfter, dropped bareEnding, List.nil_append]
  rw [final, avoids, filtered]
  exact filter_sweepFrom_eq_iff (Conversion.isBlank_indentation blank) (indentation_length some)
    (fencedCore.append (Fenced.of_unprotected bareEnding)).chain

/-- A stretch of protected characters with unprotected ones, or none, on both sides. -/
structure IsRun (protection : Protection) (front stretch back : Traced) : Prop where
  nonempty : stretch ≠ []
  all : ∀ glyph ∈ stretch, protection.keeps glyph = true
  before : ∀ glyph ∈ front.getLast?, protection.keeps glyph = false
  after : ∀ glyph ∈ back.head?, protection.keeps glyph = false

namespace IsRun

variable {front stretch back : Traced}

theorem first (run : protection.IsRun front stretch back)
    (fenced : protection.Fenced (front ++ stretch ++ back)) :
    ∀ glyph ∈ stretch.head?, isBlankGlyph glyph = false := by
  intro glyph edge
  have kept := run.all glyph (List.mem_of_mem_head? edge)
  rcases List.eq_nil_or_concat front with rfl | ⟨others, neighbour, rfl⟩
  · apply fenced.first glyph _ kept
    rw [List.nil_append, List.head?_append, Option.mem_def.mp edge]
    rfl
  · rw [List.concat_eq_append] at fenced run
    have unkept := run.before neighbour List.getLast?_concat
    have borders := (List.isChain_append.mp fenced.chain.left_of_append).2.2 neighbour
      List.getLast?_concat glyph edge
    exact borders.2 unkept kept

theorem last (run : protection.IsRun front stretch back)
    (fenced : protection.Fenced (front ++ stretch ++ back)) :
    ∀ glyph ∈ stretch.getLast?, isBlankGlyph glyph = false := by
  intro glyph edge
  have kept := run.all glyph (List.mem_of_mem_getLast? edge)
  cases back with
  | nil =>
    apply fenced.last glyph _ kept
    rw [List.append_nil, List.getLast?_append, Option.mem_def.mp edge]
    rfl
  | cons neighbour others =>
    have unkept := run.after neighbour rfl
    rw [List.append_assoc] at fenced
    have borders := (List.isChain_append.mp fenced.chain.right_of_append).2.2 glyph edge
      neighbour rfl
    exact borders.1 kept unkept

/-- A run stays as it is exactly if the indentation does not occur in it. -/
theorem unindent_eq_self_iff {unit : Text} (some : unit ≠ []) (blank : unit.isBlank = true)
    (run : protection.IsRun front stretch back) :
    unindent unit stretch = stretch ↔ ¬ Conversion.indentation unit <:+: plain stretch := by
  have swept : (unindent unit stretch).filter protection.keeps = unindent unit stretch := by
    apply List.filter_eq_self.mpr
    intro glyph member
    exact run.all glyph ((sweepFrom_sublist indentation_ne_nil stretch).subset member)
  have exactly := filter_sweepFrom_eq_iff (Conversion.isBlank_indentation blank)
    (indentation_length some) (chain_of_forall run.all)
  rw [← unindent, swept, List.filter_eq_self.mpr run.all] at exactly
  rw [exactly, plain, List.infix_map_iff]
  constructor
  · rintro avoids ⟨part, within, shown⟩
    exact avoids part within (fun glyph member => run.all glyph (within.subset member)) shown.symm
  · intro none part within _ shown
    exact none ⟨part, within, shown.symm⟩

/-- The final form treats a run on its own: what stands around it does not matter. -/
theorem finish_eq {unit : Text} (blank : unit.isBlank = true)
    (run : protection.IsRun front stretch back)
    (fenced : protection.Fenced (front ++ stretch ++ back)) :
    ∃ left right, finish unit (front ++ stretch ++ back) =
        left ++ unindent unit stretch ++ right ∧
      left.Sublist front ∧ right.Sublist (back ++ [⟨'\n', .ending⟩]) := by
  have first := run.first fenced
  have last := run.last fenced
  let before := front.dropWhile isBlankGlyph
  let after := (back.reverse.dropWhile isBlankGlyph).reverse
  refine ⟨unindent unit before, unindent unit (after ++ [⟨'\n', .ending⟩]), ?_, ?_, ?_⟩
  · have head : ∀ glyph ∈ (stretch ++ (after ++ [(⟨'\n', .ending⟩ : Glyph)])).head?,
        isBlankGlyph glyph = false := by
      rw [List.head?_append_of_ne_nil _ run.nonempty]
      exact first
    rw [finish, trim_append run.nonempty first last, List.append_assoc, List.append_assoc,
      unindent_append_of_head blank _ head, unindent_append_of_last blank _ last,
      List.append_assoc]
  · exact (sweepFrom_sublist indentation_ne_nil _).trans (List.dropWhile_sublist _)
  · apply (sweepFrom_sublist indentation_ne_nil _).trans
    apply List.Sublist.append_right
    rw [← List.reverse_sublist, List.reverse_reverse]
    exact List.dropWhile_sublist _

end IsRun

end Protection

end FinalForm

end HtmlJsx
