import HtmlJsx.Proofs.Layout

/-!
# Removing script blocks

Script blocks are removed in one pass from left to right.  The pass cuts a block
out where it begins and goes on behind it, so what stood before the block and
what stands behind it are joined and not read again.

No opening bracket stands inside the words that open and close a block.  So a
word never reaches over the bracket of another one, and where a block ends does
not depend on what precedes its closing word.  This makes the contents of a
block irrelevant, but it does not keep two parts of an opening word from
meeting where a block has been cut out.
-/

namespace HtmlJsx

namespace Text

/-- A text spells a word if it is the word but for the case of its letters. -/
def Spells (word text : Text) : Prop :=
  afterWord? word text = some []

instance (word text : Text) : Decidable (Spells word text) :=
  inferInstanceAs (Decidable (_ = _))

/-- A word occurs in a text, whatever the case of its letters. -/
def Occurs (word text : Text) : Prop :=
  ∃ before spelling after, Spells word spelling ∧ text = before ++ spelling ++ after

theorem afterWord?_eq_some_iff {word text after : Text} :
    afterWord? word text = some after ↔
      ∃ spelling, Spells word spelling ∧ text = spelling ++ after := by
  induction word generalizing text with
  | nil => simp [Spells, afterWord?]
  | cons letter word induction =>
    cases text with
    | nil =>
      simp only [afterWord?, reduceCtorEq, false_iff, not_exists, not_and]
      intro spelling spells empty
      obtain ⟨rfl, -⟩ := List.append_eq_nil_iff.mp empty.symm
      cases spells
    | cons c rest =>
      constructor
      · intro found
        rw [afterWord?] at found
        split at found
        · next same =>
          obtain ⟨spelling, spells, rfl⟩ := induction.mp found
          refine ⟨c :: spelling, ?_, rfl⟩
          rwa [Spells, afterWord?, if_pos same]
        · cases found
      · rintro ⟨spelling, spells, split⟩
        cases spelling with
        | nil => cases spells
        | cons d spelling =>
          obtain ⟨rfl, rfl⟩ := List.cons.inj split
          rw [Spells, afterWord?] at spells
          split at spells
          · next same =>
            rw [afterWord?, if_pos same]
            exact induction.mpr ⟨spelling, spells, rfl⟩
          · cases spells

theorem Spells.afterWord? {word spelling : Text} (spells : Spells word spelling) (after : Text) :
    Text.afterWord? word (spelling ++ after) = some after :=
  afterWord?_eq_some_iff.mpr ⟨spelling, spells, rfl⟩

theorem Spells.cons_iff {letter c : Char} {word spelling : Text} :
    Spells (letter :: word) (c :: spelling) ↔ sameLetter letter c = true ∧ Spells word spelling := by
  rw [Spells, Text.afterWord?]
  split
  · next same => simp [same, Spells]
  · next other => simp [other]

theorem Spells.eq_cons {letter : Char} {word spelling : Text}
    (spells : Spells (letter :: word) spelling) :
    ∃ c more, spelling = c :: more ∧ sameLetter letter c = true ∧ Spells word more := by
  cases spelling with
  | nil => cases spells
  | cons c more => exact ⟨c, more, rfl, Spells.cons_iff.mp spells⟩

theorem Spells.exists_letter {word spelling : Text} (spells : Spells word spelling) {c : Char}
    (member : c ∈ spelling) : ∃ letter ∈ word, sameLetter letter c = true := by
  induction word generalizing spelling with
  | nil =>
    obtain rfl : spelling = [] := by simpa [Spells, Text.afterWord?] using spells
    cases member
  | cons letter word induction =>
    obtain ⟨d, more, rfl, same, spells⟩ := spells.eq_cons
    rcases List.mem_cons.mp member with rfl | later
    · exact ⟨letter, List.mem_cons_self, same⟩
    · obtain ⟨other, inWord, found⟩ := induction spells later
      exact ⟨other, List.mem_cons_of_mem _ inWord, found⟩

theorem occurs_cons_iff {word : Text} {c : Char} {rest : Text} :
    Occurs word (c :: rest) ↔ (afterWord? word (c :: rest)).isSome = true ∨ Occurs word rest := by
  constructor
  · rintro ⟨before, spelling, after, spells, split⟩
    cases before with
    | nil =>
      rw [split, List.nil_append, spells.afterWord?]
      exact .inl rfl
    | cons d before =>
      obtain ⟨-, rfl⟩ := List.cons.inj split
      exact .inr ⟨before, spelling, after, spells, rfl⟩
  · rintro (begins | ⟨before, spelling, after, spells, rfl⟩)
    · obtain ⟨after, found⟩ := Option.isSome_iff_exists.mp begins
      obtain ⟨spelling, spells, split⟩ := afterWord?_eq_some_iff.mp found
      exact ⟨[], spelling, after, spells, split⟩
    · exact ⟨c :: before, spelling, after, spells, rfl⟩

/-! ## Words that begin with a bracket -/

/-- A word that begins with a bracket and has no other one. -/
def IsBracketed (word : Text) : Prop :=
  ∃ letters, word = '<' :: letters ∧ ∀ letter ∈ letters, sameLetter letter '<' = false

theorem apart_of_all {letters : Text}
    (checked : letters.all (fun letter => !sameLetter letter '<') = true) :
    ∀ letter ∈ letters, sameLetter letter '<' = false := by
  intro letter member
  exact (Bool.not_eq_true' _).mp (List.all_eq_true.mp checked letter member)

/-- Nothing but the bracket counts as a bracket, and nothing but the slash as a slash. -/
theorem eq_of_sameLetter {mark c : Char} (listed : mark ∈ ['<', '/'])
    (same : sameLetter mark c = true) : c = mark := by
  have ascii (code : Nat) (small : code < 128) : ['<', '/'].all (fun mark =>
      !sameLetter mark (Char.ofNat code) || Char.ofNat code == mark) = true := by
    revert code
    decide
  have noLetter : mark ≠ 's' ∧ mark ≠ 'i' ∧ mark ≠ 'k' := by
    have each : ['<', '/'].all (fun mark => mark != 's' && mark != 'i' && mark != 'k') = true := by
      decide
    simpa [and_assoc] using List.all_eq_true.mp each mark listed
  by_cases small : c.toNat < 128
  · have each := List.all_eq_true.mp (ascii c.toNat small) mark listed
    rw [Char.ofNat_toNat, same] at each
    exact eq_of_beq each
  · have noCapital : c.isUpper = false := by
      rw [← Bool.not_eq_true]
      intro capital
      exact small (Nat.lt_of_le_of_lt (of_decide_eq_true capital).2 (by decide))
    simpa [sameLetter, noCapital, noLetter] using same

/-- A bracket that follows is no part of a word that has none in it. -/
theorem afterWord?_append_bracket {letters : Text}
    (apart : ∀ letter ∈ letters, sameLetter letter '<' = false) (text more : Text) :
    afterWord? letters (text ++ '<' :: more) =
      (afterWord? letters text).map (· ++ '<' :: more) := by
  induction letters generalizing text with
  | nil => rfl
  | cons letter letters induction =>
    rw [List.forall_mem_cons] at apart
    cases text with
    | nil =>
      have stops : sameLetter letter '<' ≠ true := by simp [apart.1]
      simp only [List.nil_append, afterWord?, if_neg stops, Option.map_none]
    | cons c rest =>
      rw [List.cons_append, afterWord?, afterWord?, induction apart.2]
      split <;> rfl

namespace IsBracketed

variable {word : Text} (bracketed : IsBracketed word)
include bracketed

/-- A word does not reach over the bracket of another one. -/
theorem afterWord?_append (c : Char) (rest more : Text) :
    afterWord? word (c :: rest ++ '<' :: more) =
      (afterWord? word (c :: rest)).map (· ++ '<' :: more) := by
  obtain ⟨letters, rfl, apart⟩ := bracketed
  rw [List.cons_append, afterWord?, afterWord?, afterWord?_append_bracket apart]
  split <;> rfl

theorem eq_cons_of_spells {spelling : Text} (spells : Spells word spelling) :
    ∃ more, spelling = '<' :: more := by
  obtain ⟨letters, rfl, -⟩ := bracketed
  obtain ⟨c, more, rfl, same, -⟩ := spells.eq_cons
  exact ⟨more, by rw [eq_of_sameLetter (by decide) same]⟩

theorem not_occurs_nil : ¬ Occurs word [] := by
  rintro ⟨before, spelling, after, spells, split⟩
  obtain ⟨more, rfl⟩ := bracketed.eq_cons_of_spells spells
  simp at split

/-- A word occurs on one side of any bracket. -/
theorem occurs_append_iff (text more : Text) :
    Occurs word (text ++ '<' :: more) ↔ Occurs word text ∨ Occurs word ('<' :: more) := by
  induction text with
  | nil => simp [bracketed.not_occurs_nil]
  | cons c rest induction =>
    rw [List.cons_append, occurs_cons_iff, ← List.cons_append, bracketed.afterWord?_append,
      Option.isSome_map, induction, occurs_cons_iff (c := c), or_assoc]

/-- A word does not begin where there is no bracket. -/
theorem occurs_append_of_not_mem {front : Text} (absent : '<' ∉ front) (text : Text) :
    Occurs word (front ++ text) ↔ Occurs word text := by
  induction front with
  | nil => rfl
  | cons c front induction =>
    rw [List.mem_cons, not_or] at absent
    have apart : afterWord? word (c :: (front ++ text)) = none := by
      obtain ⟨letters, rfl, -⟩ := bracketed
      rw [afterWord?, if_neg]
      intro same
      exact absent.1 (eq_of_sameLetter (by decide) same).symm
    rw [List.cons_append, occurs_cons_iff, apart, induction absent.2]
    simp

/-- The first place where a word occurs. -/
theorem exists_first {text : Text} (occurs : Occurs word text) :
    ∃ before spelling after, Spells word spelling ∧ ¬ Occurs word before ∧
      text = before ++ spelling ++ after := by
  induction text with
  | nil => exact absurd occurs bracketed.not_occurs_nil
  | cons c rest induction =>
    cases begins : afterWord? word (c :: rest) with
    | some after =>
      obtain ⟨spelling, spells, split⟩ := afterWord?_eq_some_iff.mp begins
      exact ⟨[], spelling, after, spells, bracketed.not_occurs_nil, split⟩
    | none =>
      have later : Occurs word rest := by
        rw [occurs_cons_iff, begins] at occurs
        exact occurs.resolve_left Bool.false_ne_true
      obtain ⟨before, spelling, after, spells, first, rfl⟩ := induction later
      refine ⟨c :: before, spelling, after, spells, ?_, rfl⟩
      rw [occurs_cons_iff, not_or]
      refine ⟨?_, first⟩
      -- A word that stood there would stand in the whole text too, up to the bracket.
      obtain ⟨more, rfl⟩ := bracketed.eq_cons_of_spells spells
      rw [List.append_assoc, List.cons_append, ← List.cons_append,
        bracketed.afterWord?_append, Option.map_eq_none_iff] at begins
      simp [begins]

end IsBracketed

/-- Trimming a text with solid characters around its middle trims the two sides. -/
theorem trim_around {first last : Char} (solidFirst : HtmlJsx.isBlank first = false)
    (solidLast : HtmlJsx.isBlank last = false) (front middle back : Text) :
    trim (front ++ first :: middle ++ last :: back) =
      trimLeft front ++ first :: middle ++ last :: trimRight back := by
  have drops {solid : Char} (visible : HtmlJsx.isBlank solid = false) (before after : Text) :
      (before ++ solid :: after).dropWhile HtmlJsx.isBlank =
        before.dropWhile HtmlJsx.isBlank ++ solid :: after := by
    rw [List.dropWhile_append]
    split
    · next empty =>
      rw [List.isEmpty_iff.mp empty, List.dropWhile_cons_of_neg (by simp [visible])]
      rfl
    · rfl
  rw [trim, trimLeft, List.append_assoc, List.cons_append, drops solidFirst, trimRight,
    ← List.cons_append, ← List.append_assoc, List.reverse_append, List.reverse_cons,
    List.append_assoc, List.singleton_append, drops solidLast, List.reverse_append,
    List.reverse_cons, List.reverse_reverse, List.append_assoc, List.singleton_append]
  rfl

end Text

namespace Conversion

open Text

theorem scriptStart_eq : scriptStart = '<' :: "script".toList := rfl

theorem scriptEnd_eq : scriptEnd = "</script".toList ++ ['>'] := rfl

theorem isBracketed_scriptStart : IsBracketed scriptStart :=
  ⟨"script".toList, rfl, apart_of_all (by decide)⟩

theorem isBracketed_scriptEnd : IsBracketed scriptEnd :=
  ⟨"/script>".toList, rfl, apart_of_all (by decide)⟩

/-- An opening word is no part of a closing word. -/
theorem occurs_scriptEnd_append_iff {opening : Text} (opens : Spells scriptStart opening)
    (text : Text) : Occurs scriptEnd (opening ++ text) ↔ Occurs scriptEnd text := by
  rw [scriptStart_eq] at opens
  obtain ⟨bracket, rest, rfl, -, word⟩ := opens.eq_cons
  have absent : '<' ∉ rest := by
    have letters : ∀ letter ∈ "script".toList, sameLetter letter '<' = false :=
      apart_of_all (by decide)
    intro member
    obtain ⟨letter, inWord, same⟩ := word.exists_letter member
    rw [letters letter inWord] at same
    cases same
  have apart : ¬ (afterWord? scriptEnd (bracket :: (rest ++ text))).isSome = true := by
    intro begins
    obtain ⟨after, found⟩ := Option.isSome_iff_exists.mp begins
    obtain ⟨closing, closes, split⟩ := afterWord?_eq_some_iff.mp found
    have closed : Spells ('<' :: '/' :: "script>".toList) closing := closes
    obtain ⟨_, closing, rfl, -, closed⟩ := closed.eq_cons
    obtain ⟨d, closing, rfl, slash, -⟩ := closed.eq_cons
    have opened : Spells ('s' :: "cript".toList) rest := word
    obtain ⟨c, others, rfl, letter, -⟩ := opened.eq_cons
    obtain rfl : c = d := (List.cons.inj (List.cons.inj split).2).1
    obtain rfl := eq_of_sameLetter (by decide) slash
    exact absurd letter (by decide)
  rw [List.cons_append, occurs_cons_iff, or_iff_right apart,
    isBracketed_scriptEnd.occurs_append_of_not_mem absent]

/-! ## Blocks -/

/-- A script block: an opening word, anything, and a closing word. -/
def IsBlock (text : Text) : Prop :=
  ∃ opening inside closing, Spells scriptStart opening ∧ Spells scriptEnd closing ∧
    text = opening ++ inside ++ closing

/-- A block stands somewhere in a text. -/
def HasBlock (text : Text) : Prop :=
  ∃ block, IsBlock block ∧ block <:+: text

/-- The parts of a block whose first closing word is its end. -/
structure IsShortest (opening inside closing : Text) : Prop where
  opens : Spells scriptStart opening
  closes : Spells scriptEnd closing
  first : ¬ Occurs scriptEnd inside

/-- A text begins with a block exactly if it begins with one that ends at the first closing word. -/
theorem exists_prefix_iff {text : Text} :
    (∃ block, IsBlock block ∧ block <+: text) ↔
      ∃ opening inside closing after, IsShortest opening inside closing ∧
        text = opening ++ inside ++ closing ++ after := by
  constructor
  · rintro ⟨_, ⟨opening, inside, closing, opens, closes, rfl⟩, after, rfl⟩
    have occurs : Occurs scriptEnd (inside ++ closing ++ after) :=
      ⟨inside, closing, after, closes, rfl⟩
    obtain ⟨before, spelling, rest, spells, first, split⟩ := isBracketed_scriptEnd.exists_first occurs
    refine ⟨opening, before, spelling, rest, ⟨opens, spells, first⟩, ?_⟩
    simp only [List.append_assoc] at split ⊢
    rw [split]
  · rintro ⟨opening, inside, closing, after, shortest, rfl⟩
    exact ⟨_, ⟨opening, inside, closing, shortest.opens, shortest.closes, rfl⟩,
      List.prefix_append ..⟩

/-! ## The pass -/

theorem afterScript?_eq_some {inside closing : Text} (closes : Spells scriptEnd closing)
    (first : ¬ Occurs scriptEnd inside) (after : Text) :
    afterScript? (inside ++ closing ++ after) = some after := by
  obtain ⟨more, rfl⟩ := isBracketed_scriptEnd.eq_cons_of_spells closes
  induction inside with
  | nil =>
    rw [List.nil_append, List.cons_append, afterScript?, ← List.cons_append, closes.afterWord?]
  | cons c inside induction =>
    rw [occurs_cons_iff, not_or, Bool.not_eq_true, Option.isSome_eq_false_iff,
      Option.isNone_iff_eq_none] at first
    have apart : afterWord? scriptEnd (c :: inside ++ '<' :: more ++ after) = none := by
      rw [List.append_assoc]
      change afterWord? scriptEnd (c :: inside ++ '<' :: (more ++ after)) = none
      rw [isBracketed_scriptEnd.afterWord?_append, first.1]
      rfl
    rw [List.cons_append, List.cons_append] at apart ⊢
    rw [afterScript?, apart]
    exact induction first.2

theorem exists_of_afterScript? {text after : Text} (found : afterScript? text = some after) :
    ∃ inside closing, Spells scriptEnd closing ∧ text = inside ++ closing ++ after := by
  induction text with
  | nil => cases found
  | cons c rest induction =>
    rw [afterScript?] at found
    split at found
    · next here =>
      obtain rfl := Option.some.inj found
      obtain ⟨closing, closes, split⟩ := afterWord?_eq_some_iff.mp here
      exact ⟨[], closing, closes, split⟩
    · obtain ⟨inside, closing, closes, rfl⟩ := induction found
      exact ⟨c :: inside, closing, closes, rfl⟩

theorem occurs_scriptEnd_iff {text : Text} :
    Occurs scriptEnd text ↔ (afterScript? text).isSome = true := by
  constructor
  · intro occurs
    obtain ⟨inside, closing, after, closes, first, rfl⟩ := isBracketed_scriptEnd.exists_first occurs
    rw [afterScript?_eq_some closes first]
    rfl
  · intro found
    obtain ⟨after, found⟩ := Option.isSome_iff_exists.mp found
    obtain ⟨inside, closing, closes, rfl⟩ := exists_of_afterScript? found
    exact ⟨inside, closing, after, closes, rfl⟩

instance (text : Text) : Decidable (Occurs scriptEnd text) :=
  decidable_of_iff _ occurs_scriptEnd_iff.symm

theorem removeScriptsFrom_eq (skip : Nat) (text : Text) :
    removeScriptsFrom skip text = removeScripts (text.drop skip) := by
  induction text generalizing skip with
  | nil => cases skip <;> rfl
  | cons c rest induction =>
    cases skip with
    | zero => rfl
    | succ skip => exact induction skip

theorem removeScripts_block {opening inside closing : Text}
    (shortest : IsShortest opening inside closing) (after : Text) :
    removeScripts (opening ++ inside ++ closing ++ after) = removeScripts after := by
  have length : scriptLength (opening ++ inside ++ closing ++ after) =
      (opening ++ inside ++ closing).length := by
    rw [scriptLength, List.append_assoc, List.append_assoc, shortest.opens.afterWord?,
      Option.bind_some, ← List.append_assoc, afterScript?_eq_some shortest.closes shortest.first]
    simp only [List.length_append]
    omega
  obtain ⟨more, rfl⟩ := isBracketed_scriptStart.eq_cons_of_spells shortest.opens
  rw [removeScripts, List.cons_append, List.cons_append, List.cons_append, removeScriptsFrom]
  rw [List.cons_append, List.cons_append, List.cons_append] at length
  rw [length, List.length_cons]
  dsimp only
  rw [removeScriptsFrom_eq, List.drop_left]

theorem removeScripts_keep {c : Char} {rest : Text}
    (none : ¬ ∃ block, IsBlock block ∧ block <+: c :: rest) :
    removeScripts (c :: rest) = c :: removeScripts rest := by
  have length : scriptLength (c :: rest) = 0 := by
    rw [scriptLength]
    split
    · next after found =>
      obtain ⟨inner, opened, closed⟩ := Option.bind_eq_some_iff.mp found
      obtain ⟨opening, opens, split⟩ := afterWord?_eq_some_iff.mp opened
      obtain ⟨inside, closing, closes, rfl⟩ := exists_of_afterScript? closed
      refine absurd ⟨_, ⟨opening, inside, closing, opens, closes, rfl⟩, after, ?_⟩ none
      rw [split]
      simp
    · rfl
  rw [removeScripts, removeScriptsFrom, length]
  rfl

/-- Without an opening bracket there is nothing to remove. -/
theorem removeScripts_of_not_mem {text : Text} (plain : '<' ∉ text) :
    removeScripts text = text := by
  induction text with
  | nil => rfl
  | cons c rest induction =>
    rw [List.mem_cons, not_or] at plain
    rw [removeScripts_keep, induction plain.2]
    rintro ⟨block, ⟨opening, inside, closing, opens, -, rfl⟩, after, split⟩
    obtain ⟨more, rfl⟩ := isBracketed_scriptStart.eq_cons_of_spells opens
    exact plain.1 (List.cons.inj split).1

/-! ## What a removed block leaves behind -/

/--
How a pass over a text goes: the parts it leaves, with a cut between two of them
where it has removed a block.
-/
inductive Leaves : Text → List Text → Prop where
  | nil : Leaves [] [[]]
  | keep {c : Char} {rest part : Text} {parts : List Text}
      (none : ¬ ∃ block, IsBlock block ∧ block <+: c :: rest)
      (later : Leaves rest (part :: parts)) : Leaves (c :: rest) ((c :: part) :: parts)
  | remove {opening inside closing rest : Text} {parts : List Text}
      (shortest : IsShortest opening inside closing) (later : Leaves rest parts) :
      Leaves (opening ++ inside ++ closing ++ rest) ([] :: parts)

namespace Leaves

theorem eq_cons {text : Text} {parts : List Text} (leaves : Leaves text parts) :
    ∃ part others, parts = part :: others := by
  cases leaves <;> exact ⟨_, _, rfl⟩

/-- Every text is passed over in some way, and what is left are the parts. -/
theorem exists_of_text (text : Text) :
    ∃ parts, Leaves text parts ∧ removeScripts text = parts.flatten := by
  induction size : text.length using Nat.strongRecOn generalizing text with
  | ind count induction =>
    cases text with
    | nil => exact ⟨[[]], .nil, rfl⟩
    | cons c rest =>
      by_cases begins : ∃ block, IsBlock block ∧ block <+: c :: rest
      · obtain ⟨opening, inside, closing, after, shortest, split⟩ := exists_prefix_iff.mp begins
        have shorter : after.length < count := by
          obtain ⟨more, rfl⟩ := isBracketed_scriptStart.eq_cons_of_spells shortest.opens
          rw [← size, split]
          simp only [List.length_append, List.length_cons]
          omega
        obtain ⟨parts, leaves, kept⟩ := induction _ shorter after rfl
        refine ⟨[] :: parts, ?_, ?_⟩
        · rw [split]
          exact .remove shortest leaves
        · rw [split, removeScripts_block shortest, kept]
          rfl
      · obtain ⟨parts, leaves, kept⟩ := induction _ (by rw [← size]; simp) rest rfl
        obtain ⟨part, others, rfl⟩ := leaves.eq_cons
        refine ⟨(c :: part) :: others, .keep begins leaves, ?_⟩
        rw [removeScripts_keep begins, kept]
        rfl

theorem first_prefix {text part : Text} {parts : List Text}
    (leaves : Leaves text (part :: parts)) : part <+: text := by
  generalize shape : part :: parts = all at leaves
  induction leaves generalizing part parts with
  | nil =>
    obtain ⟨rfl, -⟩ := List.cons.inj shape
    exact List.nil_prefix
  | keep none later induction =>
    obtain ⟨rfl, -⟩ := List.cons.inj shape
    exact List.cons_prefix_cons.mpr ⟨rfl, induction rfl⟩
  | remove shortest later induction =>
    obtain ⟨rfl, -⟩ := List.cons.inj shape
    exact List.nil_prefix

theorem eq_singleton {text : Text} {parts : List Text} (leaves : Leaves text parts)
    (unclosed : ¬ Occurs scriptEnd text) : parts = [text] := by
  induction leaves with
  | nil => rfl
  | keep none later induction =>
    rw [occurs_cons_iff, not_or] at unclosed
    obtain ⟨rfl, rfl⟩ := List.cons.inj (induction unclosed.2)
    rfl
  | @remove opening inside closing rest parts shortest later induction =>
    exact absurd ⟨opening ++ inside, closing, rest, shortest.closes, rfl⟩ unclosed

end Leaves

theorem HasBlock.occurs {text : Text} (has : HasBlock text) : Occurs scriptEnd text := by
  obtain ⟨_, ⟨opening, inside, closing, -, closes, rfl⟩, before, after, rfl⟩ := has
  exact ⟨before ++ opening ++ inside, closing, after, closes, by simp⟩

/--
An opening word comes about where two texts are joined, and a closing word
follows it.
-/
def Joins (front back : Text) : Prop :=
  ∃ head tail rest, head ≠ [] ∧ tail ≠ [] ∧ head <:+ front ∧ back = tail ++ rest ∧
    Spells scriptStart (head ++ tail) ∧ Occurs scriptEnd rest

theorem Joins.hasBlock {front back : Text} (joins : Joins front back) : HasBlock (front ++ back) := by
  obtain ⟨head, tail, rest, -, -, ⟨before, rfl⟩, rfl, opens, inside, closing, after, closes, rfl⟩ :=
    joins
  exact ⟨_, ⟨head ++ tail, inside, closing, opens, closes, rfl⟩, before, after, by simp⟩

theorem Joins.append_left {front back : Text} (joins : Joins front back) (more : Text) :
    Joins (more ++ front) back := by
  obtain ⟨head, tail, rest, some, others, ends, split, opens, closes⟩ := joins
  exact ⟨head, tail, rest, some, others, ends.trans (List.suffix_append ..), split, opens, closes⟩

theorem hasBlock_cons_iff {c : Char} {rest : Text} :
    HasBlock (c :: rest) ↔ (∃ block, IsBlock block ∧ block <+: c :: rest) ∨ HasBlock rest := by
  simp only [HasBlock, List.infix_cons_iff, and_or_left, exists_or]

/-- Where no block begins, an opening word is followed by no closing word. -/
theorem not_occurs_of_opening {text opening : Text}
    (none : ¬ ∃ block, IsBlock block ∧ block <+: text) (opens : Spells scriptStart opening)
    (starts : opening <+: text) : ¬ Occurs scriptEnd text := by
  obtain ⟨after, rfl⟩ := starts
  rw [occurs_scriptEnd_append_iff opens]
  rintro ⟨inside, closing, rest, closes, rfl⟩
  exact none ⟨_, ⟨opening, inside, closing, opens, closes, rfl⟩, rest, by simp⟩

/-- A block that is left in a text begins with an opening word that reaches over a cut. -/
theorem Leaves.hasBlock_iff {text : Text} {parts : List Text} (leaves : Leaves text parts) :
    HasBlock parts.flatten ↔
      ∃ left right, parts = left ++ right ∧ Joins left.flatten right.flatten := by
  constructor
  · intro has
    induction leaves with
    | nil => exact absurd has.occurs isBracketed_scriptEnd.not_occurs_nil
    | @keep c rest part parts none later induction =>
      have whole := Leaves.keep none later
      rcases hasBlock_cons_iff.mp has with begins | inside
      · obtain ⟨_, ⟨opening, inside, closing, opens, closes, rfl⟩, after, split⟩ := begins
        -- In the first part the opening word would stand in the text, where nothing closes it.
        have beyond : ¬ opening <+: c :: part := by
          intro within
          have unclosed := not_occurs_of_opening none opens (within.trans whole.first_prefix)
          rw [whole.eq_singleton unclosed, List.flatten_singleton] at has
          exact unclosed has.occurs
        have joined : opening ++ (inside ++ (closing ++ after)) = (c :: part) ++ parts.flatten := by
          simpa using split
        rcases List.append_eq_append_iff.mp joined with ⟨more, within, -⟩ | ⟨tail, rfl, rest⟩
        · exact absurd ⟨more, within.symm⟩ beyond
        · refine ⟨[c :: part], parts, rfl, c :: part, tail, inside ++ (closing ++ after),
            List.cons_ne_nil _ _, ?_, by simp, rest, opens, inside, closing, after, closes, ?_⟩
          · rintro rfl
            exact beyond (by simp)
          · simp
      · obtain ⟨left, right, shape, joins⟩ := induction inside
        cases left with
        | nil =>
          obtain ⟨head, tail, rest, some, -, ends, -⟩ := joins
          exact absurd (List.suffix_nil.mp ends) some
        | cons first left =>
          obtain ⟨rfl, rfl⟩ := List.cons.inj shape
          exact ⟨(c :: part) :: left, right, rfl, joins.append_left [c]⟩
    | remove shortest later induction =>
      obtain ⟨left, right, rfl, joins⟩ := induction has
      exact ⟨[] :: left, right, rfl, joins⟩
  · rintro ⟨left, right, rfl, joins⟩
    rw [List.flatten_append]
    exact joins.hasBlock

/--
A cleaned fragment holds a script block exactly if two parts that were left meet
where a block was removed, so that an opening word comes about which a closing
word follows.
-/
theorem clean_hasBlock_iff (html : Text) :
    ∃ parts, Leaves (Text.trim html) parts ∧ clean html = parts.flatten ∧
      (HasBlock (clean html) ↔
        ∃ left right, parts = left ++ right ∧ Joins left.flatten right.flatten) := by
  obtain ⟨parts, leaves, kept⟩ := Leaves.exists_of_text (Text.trim html)
  refine ⟨parts, leaves, kept, ?_⟩
  rw [clean, kept]
  exact leaves.hasBlock_iff

/-- The two halves of an opening word, with a block between them. -/
def halvedOpening : Text := "<scr<script></script>ipt>x</script>".toList

/-- A block that is removed can leave another one, which reaches the output. -/
theorem halvedOpening_leaves_block :
    HasBlock (clean halvedOpening) ∧ clean halvedOpening = "<script>x</script>".toList ∧
      (convert {} halvedOpening).toOption.map Canvas.output =
        some "<script>x</script>\n".toList := by
  have cleaned : clean halvedOpening = "<script>x</script>".toList := by decide +kernel
  refine ⟨⟨clean halvedOpening, ⟨"<script".toList, ">x".toList, "</script>".toList, ?_⟩,
    List.infix_rfl⟩, cleaned, ?_⟩
  · rw [cleaned]
    decide
  · decide +kernel

/-! ## The contents of a block -/

/-- What is left of a text that stands before a block does not depend on what is in the block. -/
theorem exists_removeScripts_append (front : Text) :
    ∃ kept, ∀ inside back, ¬ Occurs scriptEnd inside →
      removeScripts (front ++ scriptStart ++ inside ++ scriptEnd ++ back) =
        kept ++ removeScripts back := by
  have opens : Spells scriptStart scriptStart := by decide
  have closes : Spells scriptEnd scriptEnd := by decide
  induction size : front.length using Nat.strongRecOn generalizing front with
  | ind count induction =>
    cases front with
    | nil =>
      refine ⟨[], ?_⟩
      intro inside back unclosed
      exact removeScripts_block ⟨opens, closes, unclosed⟩ back
    | cons c rest =>
      cases begins : afterWord? scriptStart (c :: rest) with
      | none =>
        -- The opening word that follows has a bracket, so no opening word begins here.
        obtain ⟨kept, leaves⟩ := induction _ (by rw [← size]; simp) rest rfl
        refine ⟨c :: kept, ?_⟩
        intro inside back unclosed
        have none : ¬ ∃ block, IsBlock block ∧
            block <+: c :: (rest ++ scriptStart ++ inside ++ scriptEnd ++ back) := by
          rintro ⟨_, ⟨opening, content, closing, spells, -, rfl⟩, after, split⟩
          have found := spells.afterWord? (content ++ (closing ++ after))
          have shape : opening ++ (content ++ (closing ++ after)) =
              c :: rest ++ '<' :: ("script".toList ++ (inside ++ (scriptEnd ++ back))) := by
            rw [scriptStart_eq] at split
            simpa only [List.append_assoc, List.cons_append] using split
          rw [shape, isBracketed_scriptStart.afterWord?_append, begins] at found
          cases found
        rw [List.cons_append, List.cons_append, List.cons_append, List.cons_append,
          removeScripts_keep none, leaves inside back unclosed, List.cons_append]
      | some after =>
        obtain ⟨opening, spells, split⟩ := afterWord?_eq_some_iff.mp begins
        rw [split] at size ⊢
        by_cases closed : Occurs scriptEnd after
        · obtain ⟨content, closing, later, ends, first, rfl⟩ :=
            isBracketed_scriptEnd.exists_first closed
          have shorter : later.length < count := by
            obtain ⟨more, rfl⟩ := isBracketed_scriptStart.eq_cons_of_spells spells
            rw [← size]
            simp only [List.length_append, List.length_cons]
            omega
          obtain ⟨kept, leaves⟩ := induction _ shorter later rfl
          refine ⟨kept, ?_⟩
          intro inside back unclosed
          have removed := removeScripts_block ⟨spells, ends, first⟩
            (later ++ scriptStart ++ inside ++ scriptEnd ++ back)
          rw [leaves inside back unclosed] at removed
          rw [← removed]
          simp only [List.append_assoc]
        · refine ⟨[], ?_⟩
          intro inside back unclosed
          have first : ¬ Occurs scriptEnd (after ++ scriptStart ++ inside) := by
            have apart := isBracketed_scriptEnd.occurs_append_iff after ("script".toList ++ inside)
            rw [List.append_assoc]
            change ¬ Occurs scriptEnd (after ++ '<' :: ("script".toList ++ inside))
            rw [apart, not_or]
            exact ⟨closed, fun wrong => unclosed ((occurs_scriptEnd_append_iff opens inside).mp wrong)⟩
          have removed := removeScripts_block ⟨spells, closes, first⟩ back
          rw [List.nil_append, ← removed]
          simp only [List.append_assoc]

/--
However the markup is read, the contents of a script block have no influence on
the outcome of a conversion.
-/
theorem convert_script_congr (read : Text → Except Problem Node) (options : Options)
    (front back : Text) {first second : Text}
    (firstOpen : ¬ Occurs scriptEnd first) (secondOpen : ¬ Occurs scriptEnd second) :
    convertWith read options (front ++ scriptStart ++ first ++ scriptEnd ++ back) =
      convertWith read options (front ++ scriptStart ++ second ++ scriptEnd ++ back) := by
  have cleaned : ∃ kept, ∀ inside, ¬ Occurs scriptEnd inside →
      clean (front ++ scriptStart ++ inside ++ scriptEnd ++ back) = kept := by
    obtain ⟨kept, leaves⟩ := exists_removeScripts_append (Text.trimLeft front)
    refine ⟨kept ++ removeScripts (Text.trimRight back), ?_⟩
    intro inside unclosed
    have trimmed : Text.trim (front ++ scriptStart ++ inside ++ scriptEnd ++ back) =
        Text.trimLeft front ++ scriptStart ++ inside ++ scriptEnd ++ Text.trimRight back := by
      have shape (left right : Text) : left ++ scriptStart ++ inside ++ scriptEnd ++ right =
          left ++ '<' :: ("script".toList ++ inside ++ "</script".toList) ++ '>' :: right := by
        rw [scriptStart_eq, scriptEnd_eq]
        simp only [List.append_assoc, List.cons_append, List.nil_append]
      rw [shape front back, shape (Text.trimLeft front) (Text.trimRight back)]
      exact Text.trim_around (by decide) (by decide) front _ back
    rw [clean, trimmed, leaves inside _ unclosed]
  obtain ⟨kept, equal⟩ := cleaned
  rw [convertWith, convertWith, markup, markup, equal first firstOpen, equal second secondOpen]

/-- A block with openings before it and in it, and with closings behind it. -/
theorem convert_script_congr_nested :
    ¬ Occurs scriptEnd "><script></scrip".toList ∧ ¬ Occurs scriptEnd "</".toList ∧
      convert {} ("<p>a</p><script>".toList ++ scriptStart ++ "><script></scrip".toList ++
          scriptEnd ++ "</script><p>b</p>".toList) =
        convert {} ("<p>a</p><script>".toList ++ scriptStart ++ "</".toList ++ scriptEnd ++
          "</script><p>b</p>".toList) := by
  have unclosed : ¬ Occurs scriptEnd "><script></scrip".toList ∧
      ¬ Occurs scriptEnd "</".toList := by
    decide
  exact ⟨unclosed.1, unclosed.2,
    convert_script_congr (Fragment.read .builtIn) {} _ _ unclosed.1 unclosed.2⟩

end Conversion

end HtmlJsx
