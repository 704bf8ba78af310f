import HtmlJsx.Text.Basic

/-!
# What a written text means

Most characters of a written text stand for themselves.  Some stretches of it,
such as references and string expressions, stand for a text as a whole; they
are called forms.  A text is read from left to right: a form where one begins,
and otherwise a character.  So every text can be read, and it denotes what its
parts mean one after the other.
-/

namespace HtmlJsx.Meaning

/-- A part of a written text. -/
inductive Part where
  /-- A character that stands for itself. -/
  | char (c : Char)
  /-- A form, with the text it stands for. -/
  | form (meaning : Text)
  deriving Repr, DecidableEq

/-- What a part stands for. -/
def Part.meaning : Part → Text
  | .char c => [c]
  | .form meaning => meaning

/-- A way to recognise the form that a text begins with, by its length and its meaning. -/
abbrev Forms := Text → Option (Nat × Text)

/-- The parts of a text after the first `skip` characters, which belong to a form already read. -/
def partsFrom (forms : Forms) : (skip : Nat) → Text → List Part
  | _, [] => []
  | skip + 1, _ :: rest => partsFrom forms skip rest
  | 0, c :: rest =>
    match forms (c :: rest) with
    | some (length, meaning) => .form meaning :: partsFrom forms (length - 1) rest
    | none => .char c :: partsFrom forms 0 rest

/-- The parts of a text. -/
def parts (forms : Forms) (text : Text) : List Part :=
  partsFrom forms 0 text

/-- The text that a written text denotes. -/
def denoted (forms : Forms) (text : Text) : Text :=
  (parts forms text).flatMap Part.meaning

/-- The forms of a table, each written in one way. -/
def ofTable (table : List (Text × Text)) : Forms := fun text =>
  table.findSome? fun (written, meaning) =>
    if written.isPrefixOf text then some (written.length, meaning) else none

section Reading

variable {forms : Forms} {c : Char} {written rest meaning : Text}

theorem partsFrom_append (front : Text) :
    partsFrom forms front.length (front ++ rest) = parts forms rest := by
  induction front with
  | nil => rfl
  | cons c front induction => exact induction

theorem parts_char (plain : forms (c :: rest) = none) :
    parts forms (c :: rest) = .char c :: parts forms rest := by
  rw [parts, partsFrom, plain]
  rfl

theorem parts_form (nonempty : written ≠ [])
    (found : forms (written ++ rest) = some (written.length, meaning)) :
    parts forms (written ++ rest) = .form meaning :: parts forms rest := by
  cases written with
  | nil => exact absurd rfl nonempty
  | cons c front =>
    rw [List.cons_append] at found ⊢
    rw [parts, partsFrom, found]
    dsimp only
    rw [List.length_cons, Nat.add_sub_cancel, partsFrom_append]

theorem denoted_char (plain : forms (c :: rest) = none) :
    denoted forms (c :: rest) = c :: denoted forms rest := by
  rw [denoted, parts_char plain]
  rfl

theorem denoted_form (nonempty : written ≠ [])
    (found : forms (written ++ rest) = some (written.length, meaning)) :
    denoted forms (written ++ rest) = meaning ++ denoted forms rest := by
  rw [denoted, parts_form nonempty found]
  rfl

end Reading

/-! ## Texts that denote themselves -/

/-- Whether every form is longer than its meaning and lies within the text it begins. -/
def Shrinks (forms : Forms) : Prop :=
  ∀ text length meaning, forms text = some (length, meaning) →
    meaning.length < length ∧ length ≤ text.length

/-- Reading never makes a text longer, and a form at its start makes it shorter. -/
theorem length_partsFrom_le {forms : Forms} (shrinks : Shrinks forms) (skip : Nat) (text : Text) :
    ((partsFrom forms skip text).flatMap Part.meaning).length ≤ text.length - skip := by
  induction text generalizing skip with
  | nil => simp [partsFrom]
  | cons c rest induction =>
    cases skip with
    | succ skip =>
      rw [List.length_cons, Nat.add_sub_add_right]
      exact induction skip
    | zero =>
      rw [partsFrom]
      split
      · next length meaning found =>
        have bounds := shrinks _ _ _ found
        have later := induction (length - 1)
        simp only [List.flatMap_cons, Part.meaning, List.length_append, List.length_cons] at *
        omega
      · have later := induction 0
        simp only [List.flatMap_cons, Part.meaning, List.length_append, List.length_cons,
          List.length_nil] at *
        omega

/-- A text denotes itself exactly if no form begins anywhere in it. -/
theorem denoted_eq_self_iff {forms : Forms} (shrinks : Shrinks forms) (text : Text) :
    denoted forms text = text ↔ ∀ suffix, suffix <:+ text → forms suffix = none := by
  have unformed : forms [] = none := by
    cases found : forms [] with
    | none => rfl
    | some form =>
      have bounds := shrinks _ _ _ found
      rw [List.length_nil] at bounds
      omega
  induction text with
  | nil =>
    simp [denoted, parts, partsFrom, unformed]
  | cons c rest induction =>
    cases found : forms (c :: rest) with
    | none =>
      rw [denoted_char found, List.cons_inj_right]
      refine induction.trans ⟨?_, ?_⟩
      · intro none suffix ends
        rcases List.suffix_cons_iff.mp ends with rfl | within
        · exact found
        · exact none suffix within
      · intro none suffix ends
        exact none suffix (ends.trans (List.suffix_cons c rest))
    | some form =>
      constructor
      · -- The form at the start is longer than its meaning, and nothing later makes up for it.
        intro same
        have bounds := shrinks _ _ _ found
        have later := length_partsFrom_le shrinks (form.1 - 1) rest
        have length := congrArg List.length same
        rw [denoted, parts, partsFrom, found] at length
        simp only [List.flatMap_cons, Part.meaning, List.length_append, List.length_cons] at *
        omega
      · intro none
        rw [none (c :: rest) List.suffix_rfl] at found
        cases found

/-! ## Writing with forms -/

/-- What is written is read as the given parts, whatever follows it. -/
def Reads (forms : Forms) (written : Text) (read : List Part) : Prop :=
  ∀ rest, parts forms (written ++ rest) = read ++ parts forms rest

/--
What is written is read as parts that denote a text; some characters do not
occur in it at all and some occur in its forms only.
-/
structure Conveys (forms : Forms) (absent formed : List Char) (written meaning : Text)
    (read : List Part) : Prop where
  reads : Reads forms written read
  denotes : read.flatMap Part.meaning = meaning
  lacks : ∀ c ∈ absent, c ∉ written
  confines : ∀ c ∈ formed, Part.char c ∉ read

namespace Conveys

variable {forms : Forms} {absent formed : List Char} {written meaning : Text} {read : List Part}

theorem nil : Conveys forms absent formed [] [] [] where
  reads := fun _ => rfl
  denotes := rfl
  lacks := fun _ _ => List.not_mem_nil
  confines := fun _ _ => List.not_mem_nil

theorem append {written' meaning' : Text} {read' : List Part}
    (first : Conveys forms absent formed written meaning read)
    (second : Conveys forms absent formed written' meaning' read') :
    Conveys forms absent formed (written ++ written') (meaning ++ meaning') (read ++ read') where
  reads := by
    intro rest
    rw [List.append_assoc, first.reads, second.reads, List.append_assoc]
  denotes := by rw [List.flatMap_append, first.denotes, second.denotes]
  lacks := by
    intro c member
    rw [List.mem_append, not_or]
    exact ⟨first.lacks c member, second.lacks c member⟩
  confines := by
    intro c member
    rw [List.mem_append, not_or]
    exact ⟨first.confines c member, second.confines c member⟩

/-- A character that begins no form stands for itself. -/
theorem char {c : Char} (plain : ∀ rest, forms (c :: rest) = none) (shown : c ∉ absent)
    (unformed : c ∉ formed) : Conveys forms absent formed [c] [c] [.char c] where
  reads := fun rest => parts_char (plain rest)
  denotes := rfl
  lacks := by
    rintro d member same
    rw [List.mem_singleton] at same
    exact shown (same ▸ member)
  confines := by
    rintro d member same
    rw [List.mem_singleton] at same
    exact unformed (Part.char.inj same ▸ member)

/-- A form is read as a whole, whatever follows it. -/
theorem form (nonempty : written ≠ [])
    (found : ∀ rest, forms (written ++ rest) = some (written.length, meaning))
    (lacks : ∀ c ∈ absent, c ∉ written) :
    Conveys forms absent formed written meaning [.form meaning] where
  reads := fun rest => parts_form nonempty (found rest)
  denotes := List.append_nil meaning
  lacks := lacks
  confines := by
    intro c _ wrong
    cases List.mem_singleton.mp wrong

/-- What is written is read as its parts if nothing follows. -/
theorem parts_eq (conveys : Conveys forms absent formed written meaning read) :
    parts forms written = read := by
  have all := conveys.reads []
  rwa [List.append_nil, parts.eq_1 forms [], partsFrom, List.append_nil] at all

theorem denoted_eq (conveys : Conveys forms absent formed written meaning read) :
    denoted forms written = meaning := by
  rw [denoted, conveys.parts_eq, conveys.denotes]

end Conveys

end HtmlJsx.Meaning
