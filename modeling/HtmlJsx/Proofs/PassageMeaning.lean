import HtmlJsx.Jsx.Canvas
import HtmlJsx.Proofs.Layout
import HtmlJsx.Proofs.Literal
import HtmlJsx.Proofs.Meaning
import Mathlib.Data.List.Chain

/-!
# Passages of text keep their meaning

A passage of text is written with references for the specials of markup and
with string expressions for what would otherwise be read as code or as
layout.  Read back with these forms, a preformatted passage denotes its text
without the carriage returns, and a running passage denotes its text with the
line breaks laid out anew.  Nothing in a passage is markup or code, and in a
preformatted one no white space is left for the layout to change.
-/

namespace HtmlJsx.PassageMeaning

open Meaning Passage

/-! ## The forms of passages -/

/-- The references that are written in a text, with the characters they stand for. -/
def references : List (Text × Text) :=
  [("&amp;".toList, ['&']), ("&lt;".toList, ['<']), ("&gt;".toList, ['>']),
    ("&nbsp;".toList, ['\u00a0'])]

/-- The braces as they are written in running text. -/
def wrappedBraces : List (Text × Text) :=
  [(['{', '\'', '{', '\'', '}'], ['{']), (['{', '\'', '}', '\'', '}'], ['}'])]

/-- The forms of running text. -/
def runningForms : Forms :=
  ofTable (references ++ wrappedBraces)

/-- A string expression; it stands for the string between its braces. -/
def expression? : Forms
  | '{' :: '"' :: rest =>
    match Json.string rest with
    | .ok (content, '}' :: after) => some (rest.length + 2 - after.length, content)
    | _ => none
  | _ => none

/-- The forms of preformatted text. -/
def preformattedForms : Forms := fun text =>
  (ofTable references text).or (expression? text)

/-- The characters that are written as references. -/
def specials : List Char := ['&', '<', '>', '\u00a0']

theorem escapeChar_of_mem : ∀ c ∈ specials, (escapeChar c, [c]) ∈ references ∧
    isGuarded c = false := by
  simp only [specials, List.forall_mem_cons]
  exact ⟨by decide, by decide, by decide, by decide, nofun⟩

theorem escapeChar_of_not_mem {c : Char} (plain : c ∉ specials) : escapeChar c = [c] := by
  simp only [specials, List.mem_cons, List.not_mem_nil, or_false, not_or] at plain
  obtain ⟨ampersand, bracket, closing, space⟩ := plain
  simp [escapeChar, Source.escapeChar, ampersand, bracket, closing, space]

/-- Every form of a table is a word of solid characters without brackets. -/
theorem solid_of_mem : ∀ entry ∈ references ++ wrappedBraces, entry.1 ≠ [] ∧
    (∀ d ∈ entry.1, isBlank d = false) ∧ ∀ d ∈ ['\n', '\r', '\t', '<', '>'], d ∉ entry.1 := by
  have checked : ((references ++ wrappedBraces).all fun entry =>
      entry.1 != [] && entry.1.all (!isBlank ·) &&
        ['\n', '\r', '\t', '<', '>'].all (!entry.1.contains ·)) = true := by
    decide
  intro entry member
  simpa [and_assoc] using List.all_eq_true.mp checked entry member

/-- References are written without braces. -/
theorem unguarded_of_mem : ∀ entry ∈ references, ∀ d ∈ entry.1, isGuarded d = false := by
  have checked : (references.all fun entry => entry.1.all (!isGuarded ·)) = true := by decide
  intro entry member
  simpa using List.all_eq_true.mp checked entry member

theorem runningForms_entry {entry : Text × Text} (member : entry ∈ references ++ wrappedBraces)
    (rest : Text) : runningForms (entry.1 ++ rest) = some (entry.1.length, entry.2) := by
  simp only [references, wrappedBraces, List.cons_append, List.nil_append, List.mem_cons,
    List.not_mem_nil, or_false] at member
  rcases member with rfl | rfl | rfl | rfl | rfl | rfl
  all_goals rfl

theorem runningForms_char {c : Char} (ampersand : c ≠ '&') (brace : c ≠ '{') (rest : Text) :
    runningForms (c :: rest) = none := by
  simp [runningForms, ofTable, references, wrappedBraces, ampersand.symm, brace.symm]

theorem preformattedForms_reference {entry : Text × Text} (member : entry ∈ references)
    (rest : Text) : preformattedForms (entry.1 ++ rest) = some (entry.1.length, entry.2) := by
  simp only [references, List.mem_cons, List.not_mem_nil, or_false] at member
  rcases member with rfl | rfl | rfl | rfl
  all_goals rfl

theorem preformattedForms_char {c : Char} (ampersand : c ≠ '&') (brace : c ≠ '{') (rest : Text) :
    preformattedForms (c :: rest) = none := by
  have noExpression : expression? (c :: rest) = none := by
    rw [expression?]
    rintro more same
    exact absurd (List.cons.inj same).1 brace
  simp [preformattedForms, ofTable, references, ampersand.symm, noExpression]

/-- A string expression is recognised as the text it was written for. -/
theorem preformattedForms_expression (text rest : Text) :
    preformattedForms (expression text ++ rest) = some ((expression text).length, text) := by
  have shape : expression text ++ rest =
      '{' :: '"' :: (text.flatMap Text.literalChar ++ '"' :: '}' :: rest) := by
    simp [expression, Text.literal]
  have noReference : ofTable references
      ('{' :: '"' :: (text.flatMap Text.literalChar ++ '"' :: '}' :: rest)) = none := by
    simp [ofTable, references]
  have length : (expression text).length = (text.flatMap Text.literalChar).length + 4 := by
    simp [expression, Text.literal]
  rw [shape, preformattedForms, noReference, Option.none_or, expression?, Json.string_literal]
  simp only [length, List.length_append, List.length_cons, Option.some.injEq, Prod.mk.injEq,
    and_true]
  omega

/-! ## Running text -/

/-- Whether a character is a blank that line breaks take with them; a no-break space is not. -/
def isLayoutBlank (c : Char) : Bool :=
  isBlank c && c != '\u00a0'

/-- A text with each line break and the layout blanks right after it replaced by a layout. -/
def relaid (layout : Text) : Text → Text
  | [] => []
  | c :: rest =>
    if c = '\n' then layout ++ relaid layout (rest.dropWhile isLayoutBlank)
    else c :: relaid layout rest
termination_by text => text.length
decreasing_by
  · exact Nat.lt_succ_of_le (List.dropWhile_sublist isLayoutBlank).length_le
  · exact Nat.lt_succ_self _

/-- The characters that are not written as themselves in running text. -/
def marks : List Char := specials ++ ['{', '}']

/-- What is written for a character of running text that is no line break. -/
def piece (c : Char) : Text :=
  (escapeChar c).flatMap guardBrace

theorem guarded_cons (c : Char) (rest : Text) : guarded (c :: rest) = piece c ++ guarded rest := by
  rw [guarded, escape, List.flatMap_cons, List.flatMap_append]
  rfl

theorem piece_of_mem : ∀ c ∈ marks, (piece c, [c]) ∈ references ++ wrappedBraces ∧
    isLayoutBlank c = false ∧ c ≠ '\n' := by
  simp only [marks, specials, List.cons_append, List.nil_append, List.forall_mem_cons]
  exact ⟨by decide, by decide, by decide, by decide, by decide, by decide, nofun⟩

theorem piece_of_not_mem {c : Char} (plain : c ∉ marks) : piece c = [c] := by
  rw [marks, List.mem_append, not_or] at plain
  have noBrace : ¬ (c = '{' ∨ c = '}') := by simpa using plain.2
  rw [piece, escapeChar_of_not_mem plain.1, List.flatMap_singleton, guardBrace, if_neg noBrace]

/-- Running text: brackets are not written, ampersands and braces in forms only. -/
abbrev RunningConveys := Conveys runningForms ['<', '>'] ['&', '{', '}']

theorem conveys_char {c : Char} (plain : c ∉ ['&', '<', '>', '{', '}']) :
    RunningConveys [c] [c] [.char c] := by
  simp only [List.mem_cons, List.not_mem_nil, or_false, not_or] at plain
  obtain ⟨ampersand, bracket, closing, brace, closingBrace⟩ := plain
  apply Conveys.char
  · exact runningForms_char ampersand brace
  · simp [bracket, closing]
  · simp [ampersand, brace, closingBrace]

theorem conveys_piece (c : Char) : ∃ read, RunningConveys (piece c) [c] read := by
  by_cases mark : c ∈ marks
  · have entry := (piece_of_mem c mark).1
    obtain ⟨nonempty, -, lacks⟩ := solid_of_mem _ entry
    have brackets : ['<', '>'] ⊆ ['\n', '\r', '\t', '<', '>'] := by decide
    exact ⟨_, Conveys.form nonempty (runningForms_entry entry) fun d member =>
      lacks d (brackets member)⟩
  · have within : ['&', '<', '>', '{', '}'] ⊆ marks := by decide
    rw [piece_of_not_mem mark]
    exact ⟨_, conveys_char fun member => mark (within member)⟩

/-- A layout of blanks stands for itself. -/
theorem conveys_blanks {blanks : Text} (blank : blanks.isBlank = true) :
    ∃ read, RunningConveys blanks blanks read := by
  induction blanks with
  | nil => exact ⟨[], .nil⟩
  | cons c rest induction =>
    rw [Text.isBlank_cons, Bool.and_eq_true] at blank
    obtain ⟨read, conveys⟩ := induction blank.2
    have plain : c ∉ ['&', '<', '>', '{', '}'] := by
      intro member
      have solid : (['&', '<', '>', '{', '}'].all (!isBlank ·)) = true := by decide
      have visible : isBlank c = false := by simpa using List.all_eq_true.mp solid c member
      exact ne_of_isBlank blank.1 visible rfl
    exact ⟨_, (conveys_char plain).append conveys⟩

/-- Solid characters are written as they are, and they end the blanks of a line break. -/
theorem reflow_solid {front : Text} (solid : ∀ d ∈ front, isBlank d = false) (nonempty : front ≠ [])
    (layout : Text) (skipping : Bool) (rest : Text) :
    reflow layout skipping (front ++ rest) = front ++ reflow layout false rest := by
  induction front generalizing skipping with
  | nil => exact absurd rfl nonempty
  | cons d front induction =>
    rw [List.forall_mem_cons] at solid
    have noBreak : d ≠ '\n' := fun same => absurd solid.1 (by rw [same]; decide)
    rw [List.cons_append, reflow, solid.1, Bool.and_false, if_neg Bool.false_ne_true,
      if_neg noBreak, List.cons_append]
    cases front with
    | nil => rfl
    | cons e front => rw [induction solid.2 (List.cons_ne_nil e front)]

/-- Line breaks are replaced character by character of the text that is written. -/
theorem reflow_guarded_cons (layout : Text) (skipping : Bool) (c : Char) (rest : Text) :
    reflow layout skipping (guarded (c :: rest)) =
      if skipping && isLayoutBlank c then reflow layout true (guarded rest)
      else if c = '\n' then layout ++ reflow layout true (guarded rest)
      else piece c ++ reflow layout false (guarded rest) := by
  rw [guarded_cons]
  by_cases mark : c ∈ marks
  · obtain ⟨entry, shown, noBreak⟩ := piece_of_mem c mark
    obtain ⟨nonempty, solid, -⟩ := solid_of_mem _ entry
    rw [reflow_solid solid nonempty, shown, Bool.and_false, if_neg Bool.false_ne_true,
      if_neg noBreak]
  · have blank : isLayoutBlank c = isBlank c := by
      have noSpace : c ≠ '\u00a0' := fun same => mark (by rw [same]; decide)
      simp [isLayoutBlank, noSpace]
    rw [piece_of_not_mem mark, blank, List.singleton_append, List.singleton_append, reflow]

/-- The blanks that are skipped end before a character that is kept. -/
theorem dropWhile_of_kept {skipping : Bool} {c : Char} {rest : Text}
    (kept : ¬ (skipping && isLayoutBlank c) = true) :
    (if skipping then (c :: rest).dropWhile isLayoutBlank else c :: rest) = c :: rest := by
  cases skipping with
  | false => rfl
  | true =>
    rw [Bool.true_and] at kept
    rw [if_pos rfl, List.dropWhile_cons_of_neg kept]

/--
Running text denotes the text with its line breaks replaced.  While blanks are
skipped, a line break has been replaced already.
-/
theorem conveys_reflow {layout : Text} (blank : layout.isBlank = true) (text : Text)
    (skipping : Bool) :
    ∃ read, RunningConveys (reflow layout skipping (guarded text))
      (relaid layout (if skipping then text.dropWhile isLayoutBlank else text)) read := by
  induction text generalizing skipping with
  | nil =>
    rw [List.dropWhile_nil, ite_self, relaid]
    exact ⟨[], .nil⟩
  | cons c rest induction =>
    rw [reflow_guarded_cons]
    split
    · next skipped =>
      rw [Bool.and_eq_true] at skipped
      rw [skipped.1, if_pos rfl, List.dropWhile_cons_of_pos skipped.2]
      exact induction true
    · next kept =>
      rw [dropWhile_of_kept kept, relaid]
      split
      · obtain ⟨front, first⟩ := conveys_blanks blank
        obtain ⟨back, later⟩ := induction true
        exact ⟨_, first.append later⟩
      · obtain ⟨front, first⟩ := conveys_piece c
        obtain ⟨back, later⟩ := induction false
        exact ⟨_, first.append later⟩

theorem running_of_unbroken {text : Text} (unbroken : '\n' ∉ text) (layout : Text) :
    running layout text = guarded text := by
  rw [running]
  induction text with
  | nil => rfl
  | cons c rest induction =>
    rw [List.mem_cons, not_or] at unbroken
    rw [reflow_guarded_cons, Bool.false_and, if_neg Bool.false_ne_true,
      if_neg (Ne.symm unbroken.1), induction unbroken.2, guarded_cons]

/-- Drawing a running text writes it with the line breaks of the level, if it has any. -/
theorem drawText_eq_running {unit : Text} {parent : Option Text} {text : Text} {canvas : Canvas}
    (flowing : canvas.inPre = false)
    (shown : (parent.any fun tag => Property.movesContents (ElementName.toJsx tag)) = false)
    (deep : '\n' ∈ text → 0 ≤ canvas.level + 2) :
    Canvas.drawText unit parent text canvas =
      .ok (canvas.write (running ('\n' :: Text.copies (canvas.level + 2).toNat unit) text)) := by
  rw [Canvas.drawText, shown, flowing, if_neg Bool.false_ne_true, if_neg Bool.false_ne_true]
  split
  · next broken =>
    have enough : ¬ canvas.level + 2 < 0 := by
      have level := deep (List.contains_iff_mem.mp broken)
      omega
    rw [Canvas.lineBreak, Canvas.copiesOf, if_neg enough]
    rfl
  · next unbroken =>
    rw [running_of_unbroken (fun member => unbroken (List.contains_iff_mem.mpr member))]

/--
A running text is neither markup nor code, and it loses nothing but the layout
after its line breaks.
-/
theorem drawText_running_denotes (options : Options) (parent : Option Text) (text : Text)
    (canvas : Canvas) (flowing : canvas.inPre = false)
    (shown : (parent.any fun tag => Property.movesContents (ElementName.toJsx tag)) = false)
    (deep : '\n' ∈ text → 0 ≤ canvas.level + 2) :
    ∃ written,
      Canvas.drawText options.indent parent text canvas = .ok (canvas.write written) ∧
      (∀ c ∈ ['<', '>'], c ∉ written) ∧
      (∀ c ∈ ['&', '{', '}'], .char c ∉ parts runningForms written) ∧
      denoted runningForms written =
        relaid ('\n' :: Text.copies (canvas.level + 2).toNat options.indent) text := by
  refine ⟨_, drawText_eq_running flowing shown deep, ?_⟩
  generalize laid : '\n' :: Text.copies (canvas.level + 2).toNat options.indent = layout
  have blank : Text.isBlank layout = true := by
    rw [← laid, Text.isBlank_cons, Text.isBlank_copies options.indent_blank]
    decide
  obtain ⟨read, conveys⟩ := conveys_reflow blank text false
  refine ⟨conveys.lacks, ?_, conveys.denoted_eq⟩
  rw [running, conveys.parts_eq]
  exact conveys.confines

/-- A text of three lines with braces, a reference and a no-break space after blanks. -/
def threeLines : Text := "a < \x7bb\x7d\n\t \u00a0 &amp;\n\n  c".toList

theorem drawText_running_denotes_threeLines :
    ∃ written, Canvas.drawText "  ".toList (some "p".toList) threeLines { level := 1 } =
        .ok (Canvas.write { level := 1 } written) ∧
      '<' ∉ written ∧ .char '{' ∉ parts runningForms written ∧
      denoted runningForms written = "a < \x7bb\x7d\n      \u00a0 &amp;\n      c".toList := by
  have shown : ((some "p".toList).any fun tag =>
      Property.movesContents (ElementName.toJsx tag)) = false := by
    decide +kernel
  obtain ⟨written, drawn, lacks, confined, denotes⟩ :=
    drawText_running_denotes {} (some "p".toList) threeLines { level := 1 } rfl shown
      (fun _ => by decide)
  refine ⟨written, drawn, lacks '<' (by decide), confined '{' (by decide), denotes.trans ?_⟩
  decide +kernel

/-! ## Preformatted text -/

/-- Preformatted text: brackets and line breaks are not written, braces in forms only. -/
abbrev PreformattedConveys := Conveys preformattedForms ['\n', '\r', '\t', '<', '>'] ['&', '{', '}']

/-- Whether two neighbouring parts are not both spaces. -/
def Apart (left right : Part) : Prop :=
  ¬ (left = .char ' ' ∧ right = .char ' ')

theorem isChain_of_length_le_one {read : List Part} (few : read.length ≤ 1) :
    read.IsChain Apart := by
  match read, few with
  | [], _ => exact List.IsChain.nil
  | [part], _ => exact List.isChain_singleton part

/-- A part that is no space keeps the spaces before it and after it apart. -/
theorem isChain_append_part {before after : List Part} {part : Part} (first : before.IsChain Apart)
    (other : part ≠ .char ' ') (later : after.IsChain Apart) :
    (before ++ [part] ++ after).IsChain Apart := by
  rw [List.append_assoc, List.isChain_append, List.isChain_append]
  refine ⟨first, ⟨List.isChain_singleton part, later, ?_⟩, ?_⟩
  · rintro left member right - ⟨same, -⟩
    obtain rfl := Option.mem_some_iff.mp member
    exact other same
  · rintro left - right member ⟨-, same⟩
    obtain rfl := Option.mem_some_iff.mp member
    exact other same

theorem conveys_expression {text : Text}
    (lacks : ∀ c ∈ ['\n', '\r', '\t', '<', '>'], c ∉ expression text) :
    PreformattedConveys (expression text) text [.form text] :=
  Conveys.form (List.cons_ne_nil _ _) (preformattedForms_expression text) lacks

/-- A run of spaces is one part at most. -/
theorem conveys_spaces (count : Nat) :
    ∃ read, PreformattedConveys (spaces count) (List.replicate count ' ') read ∧
      read.length ≤ 1 := by
  rw [spaces]
  split
  · refine ⟨_, conveys_expression ?_, Nat.le_refl 1⟩
    have shape : expression (List.replicate count ' ') =
        '{' :: '"' :: (List.replicate count ' ' ++ ['"', '}']) := by
      have each : Text.literalChar ' ' = [' '] := by decide
      simp [expression, Text.literal, List.flatMap_replicate, each]
    rw [shape]
    simp [List.mem_replicate]
  · next few =>
    match count, few with
    | 0, _ => exact ⟨[], .nil, Nat.zero_le 1⟩
    | 1, _ =>
      refine ⟨_, Conveys.char ?_ ?_ ?_, Nat.le_refl 1⟩
      · exact preformattedForms_char (by decide) (by decide)
      · decide
      · decide
    | count + 2, few => exact absurd (Nat.le_add_left 2 count) few

/-- What is written for a character of preformatted text other than a space or a carriage return. -/
def guardedPiece (c : Char) : Text :=
  if isGuarded c then expression [c] else escapeChar c

/-- Such a character is written as one part, which is no space. -/
theorem conveys_guardedPiece {c : Char} (space : c ≠ ' ') (carriage : c ≠ '\r') :
    ∃ part, PreformattedConveys (guardedPiece c) [c] [part] ∧ part ≠ .char ' ' := by
  rw [guardedPiece]
  split
  · next guarded =>
    refine ⟨.form [c], conveys_expression ?_, nofun⟩
    have checked : (['\n', '\t', '{', '}'].all fun c =>
        ['\n', '\r', '\t', '<', '>'].all (!(expression [c]).contains ·)) = true := by
      decide
    have member : c ∈ ['\n', '\t', '{', '}'] := by simpa [isGuarded, or_assoc] using guarded
    intro d absent
    have lacks := List.all_eq_true.mp (List.all_eq_true.mp checked c member) d absent
    simpa using lacks
  · next plain =>
    by_cases special : c ∈ specials
    · have entry := (escapeChar_of_mem c special).1
      obtain ⟨nonempty, -, lacks⟩ := solid_of_mem _ (List.mem_append_left _ entry)
      exact ⟨.form [c], Conveys.form nonempty (preformattedForms_reference entry) lacks, nofun⟩
    · rw [escapeChar_of_not_mem special]
      simp only [isGuarded, Bool.or_eq_true, beq_iff_eq, not_or] at plain
      simp only [specials, List.mem_cons, List.not_mem_nil, or_false, not_or] at special
      obtain ⟨ampersand, bracket, closing, -⟩ := special
      refine ⟨.char c, Conveys.char ?_ ?_ ?_, fun wrong => space (Part.char.inj wrong)⟩
      · exact preformattedForms_char ampersand plain.1.2
      · simp [plain.1.1.1, plain.1.1.2, carriage, bracket, closing]
      · simp [ampersand, plain.1.2, plain.2]

/-- A word that needs no guard ends a run of spaces and is written as it is. -/
theorem guardFrom_word {word : Text} (plain : ∀ d ∈ word, d ≠ ' ' ∧ isGuarded d = false)
    (nonempty : word ≠ []) (pending : Nat) (rest : Text) :
    guardFrom pending (word ++ rest) = spaces pending ++ word ++ guardFrom 0 rest := by
  induction word generalizing pending with
  | nil => exact absurd rfl nonempty
  | cons d word induction =>
    rw [List.forall_mem_cons] at plain
    rw [List.cons_append, guardFrom, if_neg plain.1.1, plain.1.2, if_neg Bool.false_ne_true]
    cases word with
    | nil => rfl
    | cons e word =>
      rw [induction plain.2 (List.cons_ne_nil e word)]
      simp [spaces]

/-- Preformatted text is written character by character, with the spaces before each. -/
theorem guardFrom_escape_cons {c : Char} (space : c ≠ ' ') (carriage : c ≠ '\r') (pending : Nat)
    (rest : Text) :
    guardFrom pending ((escape (c :: rest)).filter (· != '\r')) =
      spaces pending ++ guardedPiece c ++ guardFrom 0 ((escape rest).filter (· != '\r')) := by
  rw [escape, List.flatMap_cons, List.filter_append, ← escape]
  by_cases special : c ∈ specials
  · obtain ⟨entry, unguarded⟩ := escapeChar_of_mem c special
    obtain ⟨nonempty, solid, -⟩ := solid_of_mem _ (List.mem_append_left _ entry)
    have differs {blank : Char} (blanks : isBlank blank = true) :
        ∀ d ∈ escapeChar c, d ≠ blank := fun d member =>
      Ne.symm (ne_of_isBlank blanks (solid d member))
    have plain : ∀ d ∈ escapeChar c, d ≠ ' ' ∧ isGuarded d = false := fun d member =>
      ⟨differs (by decide) d member, unguarded_of_mem _ entry d member⟩
    have kept : (escapeChar c).filter (· != '\r') = escapeChar c :=
      List.filter_eq_self.mpr fun d member => by simpa using differs (by decide) d member
    rw [kept, guardFrom_word plain nonempty, guardedPiece, unguarded, if_neg Bool.false_ne_true]
  · have kept : [c].filter (· != '\r') = [c] := by simp [carriage]
    rw [guardedPiece, escapeChar_of_not_mem special, kept, List.singleton_append, guardFrom,
      if_neg space]

/--
Preformatted text denotes the text without its carriage returns, after the
spaces that are still to be written.
-/
theorem conveys_guardFrom (text : Text) (pending : Nat) :
    ∃ read, PreformattedConveys (guardFrom pending ((escape text).filter (· != '\r')))
      (List.replicate pending ' ' ++ text.filter (· != '\r')) read ∧ read.IsChain Apart := by
  induction text generalizing pending with
  | nil =>
    obtain ⟨read, conveys, few⟩ := conveys_spaces pending
    rw [List.filter_nil, List.append_nil]
    exact ⟨read, conveys, isChain_of_length_le_one few⟩
  | cons c rest induction =>
    by_cases carriage : c = '\r'
    · rw [carriage]
      exact induction pending
    by_cases space : c = ' '
    · rw [space]
      have later := induction (pending + 1)
      rw [List.replicate_succ', List.append_assoc] at later
      exact later
    · obtain ⟨read, spaced, few⟩ := conveys_spaces pending
      obtain ⟨part, written, other⟩ := conveys_guardedPiece space carriage
      obtain ⟨others, later, chain⟩ := induction 0
      have kept : (c :: rest).filter (· != '\r') = [c] ++ rest.filter (· != '\r') := by
        simp [carriage]
      rw [guardFrom_escape_cons space carriage, kept, ← List.append_assoc]
      exact ⟨_, (spaced.append written).append later,
        isChain_append_part (isChain_of_length_le_one few) other chain⟩

/--
A preformatted text survives exactly, but for its carriage returns: no white
space is left to the layout, and nothing in it is markup or code.
-/
theorem drawText_preformatted_denotes (unit : Text) (parent : Option Text) (text : Text)
    (canvas : Canvas) (raised : canvas.inPre = true)
    (shown : (parent.any fun tag => Property.movesContents (ElementName.toJsx tag)) = false) :
    ∃ written,
      Canvas.drawText unit parent text canvas = .ok (canvas.write written) ∧
      (∀ c ∈ ['\n', '\r', '\t', '<', '>'], c ∉ written) ∧
      (∀ c ∈ ['&', '{', '}'], .char c ∉ parts preformattedForms written) ∧
      (parts preformattedForms written).IsChain Apart ∧
      denoted preformattedForms written = text.filter (· != '\r') := by
  obtain ⟨read, conveys, chain⟩ := conveys_guardFrom text 0
  refine ⟨preformatted text, ?_, conveys.lacks, ?_, ?_, conveys.denoted_eq⟩
  · rw [Canvas.drawText, shown, raised, if_neg Bool.false_ne_true, if_pos rfl]
  · rw [preformatted, conveys.parts_eq]
    exact conveys.confines
  · rw [preformatted, conveys.parts_eq]
    exact chain

/-- Lines of code with carriage returns, a tab, braces and a run of spaces. -/
def codeLines : Text := "if (a < b)  \x7b\r\n\tf(\"&amp;\");\r\n\x7d".toList

theorem drawText_preformatted_denotes_codeLines :
    ∃ written, Canvas.drawText "  ".toList (some "pre".toList) codeLines { inPre := true } =
        .ok (Canvas.write { inPre := true } written) ∧
      '\n' ∉ written ∧ '<' ∉ written ∧ .char '{' ∉ parts preformattedForms written ∧
      (parts preformattedForms written).IsChain Apart ∧
      denoted preformattedForms written = "if (a < b)  \x7b\n\tf(\"&amp;\");\n\x7d".toList := by
  have shown : ((some "pre".toList).any fun tag =>
      Property.movesContents (ElementName.toJsx tag)) = false := by
    decide +kernel
  obtain ⟨written, drawn, lacks, confined, apart, denotes⟩ :=
    drawText_preformatted_denotes "  ".toList (some "pre".toList) codeLines { inPre := true } rfl
      shown
  exact ⟨written, drawn, lacks '\n' (by decide), lacks '<' (by decide),
    confined '{' (by decide), apart, denotes⟩

end HtmlJsx.PassageMeaning
