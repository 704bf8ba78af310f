import HtmlJsx.Jsx.Conversion

/-!
# White space in rendered text

The renderer takes white space away in three places: one indent unit before
an end tag, the blanks around the whole output, and the indentation of every
line.  Each of these operations works on a flat text.  The lemmas of this
file say that none of them reaches across a solid character, that is, one
that is not blank: the text on either side of it is treated on its own, and
the solid characters themselves all stay.
-/

namespace HtmlJsx

/-- A blank character differs from every solid one. -/
theorem ne_of_isBlank {c d : Char} (blank : isBlank c = true) (solid : isBlank d = false) :
    c ≠ d := by
  rintro rfl
  rw [blank] at solid
  cases solid

namespace Text

/-- The characters of a text that are not blank. -/
def solids (text : Text) : Text :=
  text.filter (!HtmlJsx.isBlank ·)

@[simp]
theorem solids_nil : solids [] = [] := rfl

@[simp]
theorem solids_append (left right : Text) : solids (left ++ right) = solids left ++ solids right :=
  List.filter_append ..

theorem solids_cons_of_isBlank {c : Char} (blank : HtmlJsx.isBlank c = true) (rest : Text) :
    solids (c :: rest) = solids rest := by
  simp [solids, blank]

theorem solids_cons_of_solid {c : Char} (solid : HtmlJsx.isBlank c = false) (rest : Text) :
    solids (c :: rest) = c :: solids rest := by
  simp [solids, solid]

/-- A text is blank exactly if it has no solid character. -/
theorem solids_eq_nil_iff {text : Text} : solids text = [] ↔ text.isBlank = true := by
  simp [solids, isBlank]

@[simp]
theorem isBlank_nil : isBlank [] = true := rfl

@[simp]
theorem isBlank_cons (c : Char) (rest : Text) :
    isBlank (c :: rest) = (HtmlJsx.isBlank c && isBlank rest) := rfl

@[simp]
theorem isBlank_append (left right : Text) :
    isBlank (left ++ right) = (isBlank left && isBlank right) := by
  simp [isBlank]

theorem isBlank_replicate {c : Char} (blank : HtmlJsx.isBlank c = true) (count : Nat) :
    isBlank (List.replicate count c) = true := by
  simp [isBlank, blank]

/-- Copies of a blank unit are blank. -/
theorem isBlank_copies {unit : Text} (blank : unit.isBlank = true) (count : Nat) :
    (copies count unit).isBlank = true := by
  induction count with
  | zero => rfl
  | succ count induction =>
    simp only [copies, List.replicate_succ, List.flatten_cons, isBlank_append, Bool.and_eq_true]
    exact ⟨blank, induction⟩

theorem copies_add (left right : Nat) (unit : Text) :
    copies (left + right) unit = copies left unit ++ copies right unit := by
  rw [copies, ← List.replicate_append_replicate, List.flatten_append]
  rfl

/-! ## Taking off one unit -/

/-- A blank text at the start of another one does not reach over a solid character. -/
theorem prefix_append_solid_iff {blanks : Text} {c : Char} (blank : blanks.isBlank = true)
    (solid : HtmlJsx.isBlank c = false) (front back : Text) :
    blanks <+: front ++ c :: back ↔ blanks <+: front := by
  constructor
  · intro starts
    induction front generalizing blanks with
    | nil =>
      cases blanks with
      | nil => exact List.nil_prefix
      | cons d rest =>
        have equal : d = c := (List.cons_prefix_cons.mp starts).1
        rw [isBlank_cons, Bool.and_eq_true] at blank
        exact absurd equal (ne_of_isBlank blank.1 solid)
    | cons first front induction =>
      cases blanks with
      | nil => exact List.nil_prefix
      | cons d rest =>
        rw [isBlank_cons, Bool.and_eq_true] at blank
        obtain ⟨rfl, more⟩ := List.cons_prefix_cons.mp starts
        exact List.cons_prefix_cons.mpr ⟨rfl, induction blank.2 more⟩
  · intro starts
    exact starts.trans (List.prefix_append _ _)

/-- A blank text at the end of another one does not reach back over a solid character. -/
theorem suffix_append_solid_iff {blanks : Text} {c : Char} (blank : blanks.isBlank = true)
    (solid : HtmlJsx.isBlank c = false) (front back : Text) :
    blanks <:+ front ++ c :: back ↔ blanks <:+ back := by
  have reversed : isBlank blanks.reverse = true := by
    simpa [isBlank] using blank
  rw [← List.reverse_prefix, ← List.reverse_prefix, List.reverse_append, List.reverse_cons,
    List.append_assoc]
  exact prefix_append_solid_iff reversed solid _ _

theorem endsWith_iff {haystack needle : Text} :
    endsWith haystack needle = true ↔ needle ≠ [] ∧ needle <:+ haystack := by
  simp [endsWith]

/-- A unit that stands at the end is taken off. -/
theorem trimSuffix_append {unit : Text} (nonempty : unit ≠ []) (front : Text) :
    trimSuffix (front ++ unit) unit = front := by
  have ends : endsWith (front ++ unit) unit = true :=
    endsWith_iff.mpr ⟨nonempty, List.suffix_append ..⟩
  simp [trimSuffix, ends]

theorem trimSuffix_of_not_endsWith {text unit : Text} (ends : endsWith text unit = false) :
    trimSuffix text unit = text := by
  simp [trimSuffix, ends]

/-- Taking off a unit takes off a blank text, perhaps the empty one. -/
theorem exists_eq_trimSuffix_append (text : Text) {unit : Text} (blank : unit.isBlank = true) :
    ∃ removed : Text, removed.isBlank = true ∧ text = trimSuffix text unit ++ removed := by
  cases ends : endsWith text unit with
  | false => exact ⟨[], rfl, by simp [trimSuffix_of_not_endsWith ends]⟩
  | true =>
    obtain ⟨nonempty, front, rfl⟩ := endsWith_iff.mp ends
    exact ⟨unit, blank, by rw [trimSuffix_append nonempty]⟩

/-- Taking off a blank unit leaves everything up to a solid character alone. -/
theorem trimSuffix_append_solid {unit : Text} (blank : unit.isBlank = true) {c : Char}
    (solid : HtmlJsx.isBlank c = false) (front back : Text) :
    trimSuffix (front ++ c :: back) unit = front ++ c :: trimSuffix back unit := by
  cases ends : endsWith back unit with
  | false =>
    have outer : endsWith (front ++ c :: back) unit = false := by
      rw [← Bool.not_eq_true, endsWith_iff, suffix_append_solid_iff blank solid, ← endsWith_iff]
      simp [ends]
    rw [trimSuffix_of_not_endsWith ends, trimSuffix_of_not_endsWith outer]
  | true =>
    obtain ⟨nonempty, kept, rfl⟩ := endsWith_iff.mp ends
    rw [trimSuffix_append nonempty, ← List.cons_append, ← List.append_assoc,
      trimSuffix_append nonempty]

/-! ## Trimming -/

/-- Trimming takes off blanks on both sides. -/
theorem exists_eq_append_trim (text : Text) :
    ∃ before after : Text, before.isBlank = true ∧ after.isBlank = true ∧
      text = before ++ trim text ++ after := by
  refine ⟨text.takeWhile HtmlJsx.isBlank,
    ((trimLeft text).reverse.takeWhile HtmlJsx.isBlank).reverse, ?_, ?_, ?_⟩
  · simp [isBlank, List.all_takeWhile]
  · simp [isBlank, List.all_takeWhile]
  · have right : trimLeft text =
        trim text ++ ((trimLeft text).reverse.takeWhile HtmlJsx.isBlank).reverse := by
      rw [trim, trimRight, ← List.reverse_append, List.takeWhile_append_dropWhile,
        List.reverse_reverse]
    rw [List.append_assoc, ← right, trimLeft, List.takeWhile_append_dropWhile]

/-- Blanks around a text that begins and ends with solid characters are trimmed, nothing else. -/
theorem trim_eq {before text after : Text} (blankBefore : before.isBlank = true)
    (blankAfter : after.isBlank = true) (first : ∀ c ∈ text.head?, HtmlJsx.isBlank c = false)
    (last : ∀ c ∈ text.getLast?, HtmlJsx.isBlank c = false) (nonempty : text ≠ []) :
    trim (before ++ text ++ after) = text := by
  have left : trimLeft (before ++ text ++ after) = text ++ after := by
    rw [trimLeft, List.append_assoc, List.dropWhile_append_of_pos (by simpa [isBlank] using blankBefore)]
    cases text with
    | nil => exact absurd rfl nonempty
    | cons c rest => simp [first c (by simp)]
  rw [trim, left, trimRight, List.reverse_append,
    List.dropWhile_append_of_pos (by simpa [isBlank] using blankAfter)]
  cases backward : text.reverse with
  | nil => exact absurd (List.reverse_eq_nil_iff.mp backward) nonempty
  | cons c rest =>
    have ending : text = rest.reverse ++ [c] := by
      rw [← List.reverse_cons, ← backward, List.reverse_reverse]
    simp [last c (by simp [ending]), ending]

/-- A trimmed text begins with a solid character, if with any. -/
theorem solid_of_head?_trim (text : Text) :
    ∀ c ∈ (trim text).head?, HtmlJsx.isBlank c = false := by
  intro c edge
  have begins : trim text <+: trimLeft text := by
    rw [← List.reverse_suffix, trim, trimRight, List.reverse_reverse]
    exact List.dropWhile_suffix _
  have first : c ∈ (trimLeft text).head? := by
    obtain ⟨rest, whole⟩ := begins
    rw [← whole, List.head?_append, Option.mem_def.mp edge]
    rfl
  have solid := List.head?_dropWhile_not HtmlJsx.isBlank text
  rw [← trimLeft, Option.mem_def.mp first] at solid
  simpa using solid

/-- A trimmed text ends with a solid character, if with any. -/
theorem solid_of_getLast?_trim (text : Text) :
    ∀ c ∈ (trim text).getLast?, HtmlJsx.isBlank c = false := by
  intro c edge
  rw [trim, trimRight, List.getLast?_reverse] at edge
  have solid := List.head?_dropWhile_not HtmlJsx.isBlank (trimLeft text).reverse
  rw [Option.mem_def.mp edge] at solid
  simpa using solid

/-- A blank text is trimmed away. -/
theorem trim_of_isBlank {text : Text} (blank : text.isBlank = true) : trim text = [] := by
  have left : trimLeft text = [] := by
    have dropped : (text ++ []).dropWhile HtmlJsx.isBlank = [].dropWhile HtmlJsx.isBlank :=
      List.dropWhile_append_of_pos (by simpa [isBlank] using blank)
    simpa [trimLeft] using dropped
  simp [trim, left, trimRight]

@[simp]
theorem solids_trim (text : Text) : solids (trim text) = solids text := by
  obtain ⟨before, after, blankBefore, blankAfter, equal⟩ := exists_eq_append_trim text
  have split := congrArg solids equal
  rw [solids_append, solids_append, solids_eq_nil_iff.mpr blankBefore,
    solids_eq_nil_iff.mpr blankAfter, List.nil_append, List.append_nil] at split
  exact split.symm

end Text

/-! ## Unindenting -/

theorem Text.replaceFrom_append (pattern replacement front rest : Text) :
    replaceFrom pattern replacement front.length (front ++ rest) =
      replaceFrom pattern replacement 0 rest := by
  induction front with
  | nil => rfl
  | cons c front induction => exact induction

namespace Conversion

/-- The text that is searched for when the indentation is taken away: a line break and blanks. -/
def indentation (unit : Text) : Text :=
  '\n' :: Text.copies bodyLevels unit

theorem isBlank_indentation {unit : Text} (blank : unit.isBlank = true) :
    Text.isBlank (indentation unit) = true := by
  rw [indentation, Text.isBlank_cons, Text.isBlank_copies blank]
  decide

/--
Replacing a blank pattern up to a solid character and after it are separate
matters.  The characters to be skipped belong to the text before it.
-/
theorem replaceFrom_append_solid {blanks replacement : Text} (blank : blanks.isBlank = true)
    (nonempty : blanks ≠ []) {c : Char} (solid : isBlank c = false) (front back : Text)
    (skip : Nat) (within : skip ≤ front.length) :
    Text.replaceFrom blanks replacement skip (front ++ c :: back) =
      Text.replaceFrom blanks replacement skip front ++
        c :: Text.replaceFrom blanks replacement 0 back := by
  induction front generalizing skip with
  | nil =>
    have none : skip = 0 := Nat.le_zero.mp within
    have apart : blanks.isPrefixOf (c :: back) = false := by
      rw [← Bool.not_eq_true, List.isPrefixOf_iff_prefix]
      intro starts
      have short := (Text.prefix_append_solid_iff blank solid [] back).mp starts
      exact nonempty (List.prefix_nil.mp short)
    simp [none, Text.replaceFrom, apart]
  | cons first front induction =>
    cases skip with
    | succ skip =>
      simp only [List.cons_append, Text.replaceFrom]
      exact induction skip (Nat.le_of_succ_le_succ within)
    | zero =>
      have same : blanks.isPrefixOf (first :: (front ++ c :: back)) =
          blanks.isPrefixOf (first :: front) := by
        rw [Bool.eq_iff_iff, List.isPrefixOf_iff_prefix, List.isPrefixOf_iff_prefix]
        exact Text.prefix_append_solid_iff blank solid (first :: front) back
      simp only [List.cons_append, Text.replaceFrom, same]
      split
      · next starts =>
        have short := (List.isPrefixOf_iff_prefix.mp starts).length_le
        rw [List.length_cons] at short
        rw [induction _ (by omega), List.append_assoc]
      · rw [induction 0 (Nat.zero_le _), List.cons_append]

/-- Unindenting treats the text before a solid character and the text after it separately. -/
theorem unindent_append_solid {unit : Text} (blank : unit.isBlank = true) {c : Char}
    (solid : isBlank c = false) (front back : Text) :
    unindent unit (front ++ c :: back) = unindent unit front ++ c :: unindent unit back :=
  replaceFrom_append_solid (isBlank_indentation blank) (List.cons_ne_nil _ _) solid front back 0
    (Nat.zero_le _)

/-- What stands on one line is kept. -/
theorem unindent_append_of_not_mem {front : Text} (oneLine : '\n' ∉ front) (unit rest : Text) :
    unindent unit (front ++ rest) = front ++ unindent unit rest := by
  induction front with
  | nil => rfl
  | cons c front induction =>
    rw [List.mem_cons, not_or] at oneLine
    have apart : ('\n' :: Text.copies bodyLevels unit).isPrefixOf (c :: (front ++ rest)) = false := by
      rw [List.isPrefixOf_cons_cons, beq_false_of_ne oneLine.1, Bool.false_and]
    rw [List.cons_append, unindent, Text.replace, Text.replaceFrom, apart,
      if_neg Bool.false_ne_true]
    exact congrArg (c :: ·) (induction oneLine.2)

theorem unindent_of_not_mem {text : Text} (oneLine : '\n' ∉ text) (unit : Text) :
    unindent unit text = text := by
  have kept := unindent_append_of_not_mem oneLine unit []
  rw [List.append_nil] at kept
  exact kept.trans (List.append_nil text)

/-- Of the indentation only the line break is kept. -/
theorem unindent_indentation_append (unit rest : Text) :
    unindent unit (indentation unit ++ rest) = '\n' :: unindent unit rest := by
  have starts : ('\n' :: Text.copies bodyLevels unit).isPrefixOf
      ('\n' :: (Text.copies bodyLevels unit ++ rest)) = true :=
    List.isPrefixOf_iff_prefix.mpr (List.prefix_append _ rest)
  rw [indentation, unindent, Text.replace, List.cons_append, Text.replaceFrom, if_pos starts,
    List.length_cons, Nat.add_sub_cancel, Text.replaceFrom_append]
  rfl

@[simp]
theorem unindent_newline (unit : Text) : unindent unit ['\n'] = ['\n'] := by
  simp only [unindent, Text.replace, Text.replaceFrom]
  split <;> rfl

/-- Replacing blanks by a line break keeps the solid characters; the skipped ones must be blank. -/
theorem solids_replaceFrom {blanks : Text} (blank : blanks.isBlank = true) (text : Text)
    (skip : Nat) (skipped : Text.isBlank (text.take skip) = true) :
    Text.solids (Text.replaceFrom ('\n' :: blanks) ['\n'] skip text) = Text.solids text := by
  induction text generalizing skip with
  | nil => cases skip <;> rfl
  | cons c rest induction =>
    cases skip with
    | succ skip =>
      rw [List.take_succ_cons, Text.isBlank_cons, Bool.and_eq_true] at skipped
      rw [Text.replaceFrom, induction skip skipped.2, Text.solids_cons_of_isBlank skipped.1]
    | zero =>
      rw [Text.replaceFrom]
      split
      · next starts =>
        obtain ⟨rfl, after, rfl⟩ := List.cons_prefix_cons.mp (List.isPrefixOf_iff_prefix.mp starts)
        have newline : isBlank '\n' = true := by decide
        rw [List.singleton_append, Text.solids_cons_of_isBlank newline,
          Text.solids_cons_of_isBlank newline]
        exact induction blanks.length (by simpa using blank)
      · have inner := induction 0 rfl
        cases solid : isBlank c with
        | true => rw [Text.solids_cons_of_isBlank solid, Text.solids_cons_of_isBlank solid, inner]
        | false => rw [Text.solids_cons_of_solid solid, Text.solids_cons_of_solid solid, inner]

/-- Unindenting keeps the solid characters. -/
theorem solids_unindent {unit : Text} (blank : unit.isBlank = true) (text : Text) :
    Text.solids (unindent unit text) = Text.solids text :=
  solids_replaceFrom (Text.isBlank_copies blank bodyLevels) text 0 rfl

/-- The final form of an output has the solid characters of the output. -/
theorem solids_finish {unit : Text} (blank : unit.isBlank = true) (output : Text) :
    Text.solids (finish unit output) = Text.solids output := by
  have newline : Text.solids ['\n'] = [] := rfl
  rw [finish, solids_unindent blank, Text.solids_append, Text.solids_trim, newline,
    List.append_nil]

end Conversion

end HtmlJsx
