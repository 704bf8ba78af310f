import HtmlJsx.Proofs.IntegerSpelling

/-!
# Numbers of scripts

A script compares the integer at the start of a text with the number that the
whole text denotes.  Both readings pass over the blanks of scripts, and both
round correctly; the text of an infinite number equals it.

The judgement of spellings differs from this comparison in three ways: it
passes over other blanks, it takes fewer blanks before a number than after it,
and it refuses what is infinite.
-/

namespace HtmlJsx.ScriptNumber

open Spelling
open Binary64 (IsRounded)

/-! ## What a script reads -/

/-- Whether a character is white space or the end of a line in a script. -/
def isScriptBlank (c : Char) : Bool :=
  let code := c.toNat
  (9 ≤ code && code ≤ 13) || code == 0x20 || code == 0xA0 || code == 0x1680 ||
    (0x2000 ≤ code && code ≤ 0x200A) || code == 0x2028 || code == 0x2029 || code == 0x202F ||
    code == 0x205F || code == 0x3000 || code == 0xFEFF

/-- The number of the integer at the very start of a text, as far as its digits go. -/
def LeadingInteger (text : Text) (number : Binary64) : Prop :=
  ∃ (sign : Sign) (digits rest : Text), text = sign.text ++ (digits ++ rest) ∧ digits ≠ [] ∧
    (∀ c ∈ digits, c.isDigit = true) ∧ Undigited rest ∧
    IsRounded sign.isNegative (positional 10 digits) number

/-- The number that a text denotes as a literal of a script. -/
inductive Denotes : Text → Binary64 → Prop
  | decimal (literal : DecimalLiteral) {number : Binary64} :
      IsRounded literal.sign.isNegative literal.value number → Denotes literal.text number
  | based (literal : BaseLiteral) {number : Binary64} :
      IsRounded false literal.value number → Denotes literal.text number
  | infinity (sign : Sign) :
      Denotes (sign.text ++ "Infinity".toList) (.infinite sign.isNegative)

/-- The number of the integer at the start of a text, after blanks. -/
def ReadsInteger (text : Text) (number : Binary64) : Prop :=
  ∃ blanks rest, text = blanks ++ rest ∧ (∀ c ∈ blanks, isScriptBlank c = true) ∧
    LeadingInteger rest number

/-- The number that a whole text is, between blanks; blank text is zero. -/
def ReadsNumber (text : Text) (number : Binary64) : Prop :=
  ∃ before core after, text = before ++ core ++ after ∧
    (∀ c ∈ before, isScriptBlank c = true) ∧ (∀ c ∈ after, isScriptBlank c = true) ∧
    (core = [] ∧ number = Binary64.zero false ∨ Denotes core number)

/-- Whether a script finds a text equal to the integer at its start. -/
def IsScriptInteger (text : Text) : Prop :=
  ∃ start number, ReadsInteger text start ∧ ReadsNumber text number ∧ start.same number = true

/-- Whether a text without blanks is equal to the integer at its start, a given number. -/
def IsWhole (core : Text) (start : Binary64) : Prop :=
  LeadingInteger core start ∧ ∃ number, Denotes core number ∧ start.same number = true

/-! ## Blanks and numerals -/

theorem isScriptBlank_of_isNumeralChar {c : Char} (numeral : isNumeralChar c = true) :
    isScriptBlank c = false := by
  have bounds := toNat_of_isNumeralChar numeral
  rw [← Bool.not_eq_true]
  intro blank
  simp only [isScriptBlank, Bool.or_eq_true, Bool.and_eq_true, decide_eq_true_eq, beq_iff_eq]
    at blank
  omega

theorem isScriptBlank_of_isAsciiBlank {c : Char} (ascii : isAsciiBlank c = true) :
    isScriptBlank c = true := by
  simp only [isAsciiBlank, Bool.or_eq_true, beq_iff_eq, Bool.and_eq_true,
    decide_eq_true_eq] at ascii
  rcases ascii with rfl | bounds
  · decide
  · simp [isScriptBlank, bounds]

/-- A class without numeral characters holds none. -/
theorem not_isNumeralChar {test : Char → Bool}
    (apart : ∀ {c}, isNumeralChar c = true → test c = false) {c : Char} (member : test c = true) :
    isNumeralChar c = false := by
  rw [← Bool.not_eq_true]
  intro numeral
  rw [apart numeral] at member
  cases member

theorem undigited_of_isScriptBlank {after : Text} (blank : ∀ c ∈ after, isScriptBlank c = true) :
    Undigited after := by
  intro c edge
  rw [← Bool.not_eq_true]
  intro digit
  have solid := not_isNumeralChar isScriptBlank_of_isNumeralChar
    (blank c (List.mem_of_mem_head? edge))
  rw [isNumeralChar_of_isDigit digit] at solid
  cases solid

theorem isNumeralChar_of_mem_sign {sign : Sign} {c : Char} (member : c ∈ sign.text) :
    isNumeralChar c = true := by
  cases sign with
  | absent => cases member
  | plus =>
    obtain rfl := List.mem_singleton.mp member
    decide
  | minus =>
    obtain rfl := List.mem_singleton.mp member
    decide

theorem Denotes.ne_nil {core : Text} {number : Binary64} (denotes : Denotes core number) :
    core ≠ [] := by
  cases denotes with
  | decimal literal rounded => exact literal.text_ne_nil
  | based literal rounded => exact List.cons_ne_nil _ _
  | infinity sign => exact List.append_ne_nil_of_right_ne_nil _ (by decide)

theorem Denotes.all_isNumeralChar {core : Text} {number : Binary64}
    (denotes : Denotes core number) : ∀ c ∈ core, isNumeralChar c = true := by
  cases denotes with
  | decimal literal rounded => exact literal.isNumeralChar_text
  | based literal rounded =>
    exact isNumeralChar_of_radix (radix?_eq_some_iff.mpr ⟨literal, rfl, rfl⟩)
  | infinity sign =>
    intro c member
    have letters : "Infinity".toList.all isNumeralChar = true := by decide
    rcases List.mem_append.mp member with inSign | inWord
    · exact isNumeralChar_of_mem_sign inSign
    · exact List.all_eq_true.mp letters c inWord

/-! ## The integer at the start -/

theorem leadingInteger_iff {text : Text} {number : Binary64} :
    LeadingInteger text number ↔
      (splitSign text).2.takeWhile Char.isDigit ≠ [] ∧
        IsRounded (splitSign text).1
          (positional 10 ((splitSign text).2.takeWhile Char.isDigit)) number := by
  constructor
  · rintro ⟨sign, digits, rest, rfl, nonempty, allDigits, ends, rounded⟩
    rw [splitSign_append_text sign (unsigned_of_isDigit nonempty allDigits),
      takeWhile_run allDigits ends]
    exact ⟨nonempty, rounded⟩
  · rintro ⟨nonempty, rounded⟩
    obtain ⟨sign, whole, negative⟩ := exists_sign_text text
    refine ⟨sign, _, (splitSign text).2.dropWhile Char.isDigit, ?_, nonempty,
      List.all_eq_true.mp List.all_takeWhile, ?_, negative ▸ rounded⟩
    · rw [List.takeWhile_append_dropWhile]
      exact whole
    · intro c edge
      have stops := List.head?_dropWhile_not Char.isDigit (splitSign text).2
      rw [Option.mem_def.mp edge] at stops
      simpa using stops

theorem LeadingInteger.unique {text : Text} {left right : Binary64}
    (leftLeads : LeadingInteger text left) (rightLeads : LeadingInteger text right) :
    left = right :=
  (leadingInteger_iff.mp leftLeads).2.unique (leadingInteger_iff.mp rightLeads).2

theorem takeWhile_isDigit_append {after : Text} (ends : Undigited after) (text : Text) :
    (text ++ after).takeWhile Char.isDigit = text.takeWhile Char.isDigit := by
  induction text with
  | nil => exact takeWhile_run nofun ends
  | cons c rest induction =>
    rw [List.cons_append, List.takeWhile_cons, List.takeWhile_cons, induction]

/-- What follows a number does not change the integer at its start, unless a digit follows. -/
theorem leadingInteger_append_iff {core after : Text} (nonempty : core ≠ [])
    (ends : Undigited after) {number : Binary64} :
    LeadingInteger (core ++ after) number ↔ LeadingInteger core number := by
  rw [leadingInteger_iff, leadingInteger_iff, BareNumber.splitSign_append nonempty]
  dsimp only
  rw [takeWhile_isDigit_append ends]

theorem LeadingInteger.exists_head {text : Text} {number : Binary64}
    (leads : LeadingInteger text number) :
    ∃ c ∈ text.head?, isNumeralChar c = true := by
  obtain ⟨sign, digits, rest, rfl, nonempty, allDigits, -⟩ := leads
  cases digits with
  | nil => exact absurd rfl nonempty
  | cons c more =>
    cases sign with
    | absent => exact ⟨c, rfl, isNumeralChar_of_isDigit (allDigits c List.mem_cons_self)⟩
    | plus => exact ⟨'+', rfl, by decide⟩
    | minus => exact ⟨'-', rfl, by decide⟩

/-! ## The number that a text denotes -/

theorem denotes_of_value? {core : Text} {number : Binary64} (trimmed : Text.trim core = core)
    (nonempty : core ≠ []) (valued : value? core = .ok (some number)) : Denotes core number := by
  rcases value?_eq_some valued with empty | decimal | ⟨natural, based, rfl⟩
  · rw [trimmed] at empty
    exact absurd empty nonempty
  · rw [trimmed] at decimal
    obtain ⟨literal, rfl, rounded⟩ := exists_literal_of_decimal? decimal
    exact .decimal literal rounded
  · rw [trimmed] at based
    obtain ⟨literal, rfl, rfl⟩ := radix?_eq_some_iff.mp based
    exact .based literal (Binary64.isRounded_ofNat _ _)

/-- Reading a whole text that begins with an integer finds the number that it denotes. -/
theorem value?_of_denotes {core : Text} {start number : Binary64}
    (leads : LeadingInteger core start) (denotes : Denotes core number)
    {found : Option Binary64} (valued : value? core = .ok found) : found = some number := by
  have trimmed := trim_numeral denotes.ne_nil denotes.all_isNumeralChar
  have nonempty : core.isEmpty = false := by simpa using denotes.ne_nil
  simp only [value?, trimmed, nonempty, Bool.false_eq_true, if_false] at valued
  cases denotes with
  | decimal literal rounded =>
    obtain ⟨read, decimal, readRounded⟩ := literal.exists_isRounded
    rw [decimal] at valued
    cases valued
    rw [readRounded.unique rounded]
  | based literal rounded =>
    have based := radix?_eq_some_iff.mpr ⟨literal, rfl, rfl⟩
    simp only [decimal?_of_radix? based, based] at valued
    split at valued
    · cases valued
      rw [(Binary64.isRounded_ofNat _ _).unique rounded]
    · cases valued
  | infinity sign =>
    -- The word begins with a letter, so there is no integer at the start.
    have unsigned : Unsigned "Infinity".toList := by
      rintro c ⟨⟩
      decide
    have begun := (leadingInteger_iff.mp leads).1
    rw [splitSign_append_text sign unsigned] at begun
    exact absurd rfl begun

/-! ## Judging a text without blanks -/

theorem leadingInteger_iff_integerStart? {core : Text}
    (numeral : ∀ c ∈ core, isNumeralChar c = true) {start : Binary64} :
    LeadingInteger core start ↔
      ∃ negative digits, integerStart? core = some (negative, digits) ∧
        start = Binary64.ofNat negative (Binary64.readDigits 10 digits) := by
  have solid : ∀ c ∈ core.head?, isBlank c = false :=
    fun c edge => isBlank_of_isNumeralChar (numeral c (List.mem_of_mem_head? edge))
  rw [leadingInteger_iff, integerStart?, BareNumber.dropWhile_isAsciiBlank solid]
  dsimp only
  have allDigits := List.all_eq_true.mp
    (List.all_takeWhile : ((splitSign core).2.takeWhile Char.isDigit).all Char.isDigit = true)
  constructor
  · rintro ⟨begun, rounded⟩
    refine ⟨_, _, if_neg (by simpa using begun), ?_⟩
    rw [readDigits_ten allDigits]
    exact rounded.unique (Binary64.isRounded_ofNat _ _)
  · rintro ⟨negative, digits, found, rfl⟩
    split at found
    · cases found
    · next begun =>
      cases found
      rw [readDigits_ten allDigits]
      exact ⟨by simpa using begun, Binary64.isRounded_ofNat _ _⟩

/-- What a judgement that was passed rests on. -/
theorem isInteger_eq_ok {text : Text} {judged : Bool} (returned : isInteger text = .ok judged) :
    judged = false ∧ (integerStart? text = none ∨ value? text = .ok none) ∨
      ∃ negative digits number, integerStart? text = some (negative, digits) ∧
        value? text = .ok (some number) ∧
        judged = ((Binary64.ofNat negative (Binary64.readDigits 10 digits)).isFinite &&
          (Binary64.ofNat negative (Binary64.readDigits 10 digits)).same number) := by
  rw [isInteger] at returned
  split at returned
  · next nothing =>
    cases returned
    exact .inl ⟨rfl, .inl nothing⟩
  · next negative digits start =>
    split at returned
    · cases returned
    · next valued =>
      cases returned
      exact .inl ⟨rfl, .inr valued⟩
    · next number valued =>
      split at returned
      · cases returned
      · cases returned
        exact .inr ⟨negative, digits, number, start, valued, rfl⟩

theorem isInteger_iff_isWhole {core : Text} (nonempty : core ≠ [])
    (numeral : ∀ c ∈ core, isNumeralChar c = true) {judged : Bool}
    (returned : isInteger core = .ok judged) :
    judged = true ↔ ∃ start, IsWhole core start ∧ start.isFinite = true := by
  have trimmed := trim_numeral nonempty numeral
  constructor
  · rintro rfl
    rcases isInteger_eq_ok returned with ⟨no, -⟩ | ⟨negative, digits, number, start, valued, agree⟩
    · cases no
    · obtain ⟨finite, same⟩ := Bool.and_eq_true_iff.mp agree.symm
      have leads := (leadingInteger_iff_integerStart? numeral).mpr ⟨negative, digits, start, rfl⟩
      exact ⟨_, ⟨leads, number, denotes_of_value? trimmed nonempty valued, same⟩, finite⟩
  · rintro ⟨start, ⟨leads, number, denotes, same⟩, finite⟩
    obtain ⟨negative, digits, starts, rfl⟩ := (leadingInteger_iff_integerStart? numeral).mp leads
    rcases isInteger_eq_ok returned with ⟨-, nothing | nothing⟩ | ⟨_, _, _, again, valued, agree⟩
    · rw [starts] at nothing
      cases nothing
    · cases value?_of_denotes leads denotes nothing
    · rw [starts] at again
      cases again
      cases value?_of_denotes leads denotes valued
      rw [agree, finite, same, Bool.and_self]

/-! ## Dividing a text -/

/-- A text divided into a whole integer and what stands around it. -/
@[ext]
structure Division (text : Text) where
  before : Text
  core : Text
  after : Text
  start : Binary64
  text_eq : text = before ++ core ++ after
  isWhole : IsWhole core start

namespace Division

variable {text : Text}

theorem core_ne_nil (division : Division text) : division.core ≠ [] := by
  obtain ⟨-, number, denotes, -⟩ := division.isWhole
  exact denotes.ne_nil

theorem isNumeralChar_core (division : Division text) :
    ∀ c ∈ division.core, isNumeralChar c = true := by
  obtain ⟨-, number, denotes, -⟩ := division.isWhole
  exact denotes.all_isNumeralChar

/-- Whether nothing around the integer could belong to a number. -/
def IsLoose (division : Division text) : Prop :=
  (∀ c ∈ division.before, isNumeralChar c = false) ∧
    ∀ c ∈ division.after, isNumeralChar c = false

/-- Whether blanks of scripts stand around the integer. -/
def IsScriptBlank (division : Division text) : Prop :=
  (∀ c ∈ division.before, isScriptBlank c = true) ∧
    ∀ c ∈ division.after, isScriptBlank c = true

/-- Whether the blanks that are passed over stand around the integer. -/
def IsBlank (division : Division text) : Prop :=
  division.before.all isAsciiBlank = true ∧ division.after.isBlank = true

theorem IsScriptBlank.isLoose {division : Division text} (blank : division.IsScriptBlank) :
    division.IsLoose :=
  ⟨fun c member => not_isNumeralChar isScriptBlank_of_isNumeralChar (blank.1 c member),
    fun c member => not_isNumeralChar isScriptBlank_of_isNumeralChar (blank.2 c member)⟩

theorem IsBlank.isLoose {division : Division text} (blank : division.IsBlank) :
    division.IsLoose := by
  constructor
  · intro c member
    have ascii := List.all_eq_true.mp blank.1 c member
    exact not_isNumeralChar isBlank_of_isNumeralChar (BareNumber.isBlank_of_isAsciiBlank ascii)
  · intro c member
    exact not_isNumeralChar isBlank_of_isNumeralChar (List.all_eq_true.mp blank.2 c member)

/-- The integer is where the numeral characters are. -/
theorem IsLoose.parts {division : Division text} (loose : division.IsLoose) :
    division.before = text.takeWhile (fun c => !isNumeralChar c) ∧
      division.core = (text.dropWhile fun c => !isNumeralChar c).takeWhile isNumeralChar ∧
      division.after = (text.dropWhile fun c => !isNumeralChar c).dropWhile isNumeralChar := by
  have outside : ∀ c ∈ division.before, (!isNumeralChar c) = true :=
    fun c member => by rw [loose.1 c member, Bool.not_false]
  have inside : ∀ c ∈ (division.core ++ division.after).head?, (!isNumeralChar c) = false := by
    rw [List.head?_append_of_ne_nil _ division.core_ne_nil]
    intro c edge
    rw [division.isNumeralChar_core c (List.mem_of_mem_head? edge), Bool.not_true]
  have ends : ∀ c ∈ division.after.head?, isNumeralChar c = false :=
    fun c edge => loose.2 c (List.mem_of_mem_head? edge)
  have whole : text = division.before ++ (division.core ++ division.after) := by
    rw [← List.append_assoc]
    exact division.text_eq
  have front : text.takeWhile (fun c => !isNumeralChar c) = division.before :=
    (congrArg _ whole).trans (takeWhile_run outside inside)
  have back : (text.dropWhile fun c => !isNumeralChar c) = division.core ++ division.after :=
    (congrArg _ whole).trans (dropWhile_run outside inside)
  rw [front, back, takeWhile_run division.isNumeralChar_core ends,
    dropWhile_run division.isNumeralChar_core ends]
  exact ⟨rfl, rfl, rfl⟩

/-- A text is divided loosely in one way only. -/
theorem eq_of_isLoose {left right : Division text} (leftLoose : left.IsLoose)
    (rightLoose : right.IsLoose) : left = right := by
  obtain ⟨leftBefore, leftCore, leftAfter⟩ := leftLoose.parts
  obtain ⟨rightBefore, rightCore, rightAfter⟩ := rightLoose.parts
  have core := leftCore.trans rightCore.symm
  exact Division.ext (leftBefore.trans rightBefore.symm) core (leftAfter.trans rightAfter.symm)
    ((core ▸ left.isWhole.1).unique right.isWhole.1)

end Division

/-- The judgement finds a finite integer between the blanks that it passes over. -/
theorem isInteger_iff_division {text : Text} {judged : Bool}
    (returned : isInteger text = .ok judged) :
    judged = true ↔
      ∃ division : Division text, division.IsBlank ∧ division.start.isFinite = true := by
  constructor
  · rintro rfl
    obtain ⟨negative, digits, number, start, valued, -⟩ := isInteger_eq_true returned
    obtain ⟨before, after, blankBefore, blankAfter, whole⟩ := Text.exists_eq_append_trim text
    have nonempty := trim_ne_nil_of_integerStart? start
    have ascii :=
      (BareNumber.splitSign_trim_of_integerStart? blankBefore blankAfter whole start).1
    have numeral : ∀ c ∈ Text.trim text, isNumeralChar c = true := by
      rcases value?_eq_some valued with empty | decimal | ⟨natural, based, -⟩
      · exact absurd empty nonempty
      · exact isNumeralChar_of_decimal decimal
      · exact isNumeralChar_of_radix based
    have core : isInteger (Text.trim text) = .ok true := by
      rw [← isInteger_between ascii blankAfter nonempty numeral, ← whole]
      exact returned
    obtain ⟨start, isWhole, finite⟩ := (isInteger_iff_isWhole nonempty numeral core).mp rfl
    exact ⟨⟨before, _, after, start, whole, isWhole⟩, ⟨ascii, blankAfter⟩, finite⟩
  · rintro ⟨division, ⟨ascii, blank⟩, finite⟩
    have core : isInteger division.core = .ok judged := by
      rw [← isInteger_between ascii blank division.core_ne_nil division.isNumeralChar_core,
        ← division.text_eq]
      exact returned
    exact (isInteger_iff_isWhole division.core_ne_nil division.isNumeralChar_core core).mpr
      ⟨division.start, division.isWhole, finite⟩

/-- Blanks end where a number starts. -/
theorem dropWhile_isScriptBlank {blanks rest : Text}
    (blank : ∀ c ∈ blanks, isScriptBlank c = true)
    (starts : ∃ c ∈ rest.head?, isNumeralChar c = true) :
    (blanks ++ rest).dropWhile isScriptBlank = rest := by
  obtain ⟨first, edge, numeral⟩ := starts
  apply dropWhile_run blank
  intro c again
  obtain rfl := Option.mem_unique edge again
  exact isScriptBlank_of_isNumeralChar numeral

/-- A script finds an integer between its blanks. -/
theorem isScriptInteger_iff_division {text : Text} :
    IsScriptInteger text ↔ ∃ division : Division text, division.IsScriptBlank := by
  constructor
  · rintro ⟨start, number, ⟨blanks, rest, whole, blank, leads⟩,
      ⟨before, core, after, divided, blankBefore, blankAfter, empty | denotes⟩, same⟩
    · -- Blank text has no integer at its start.
      obtain ⟨rfl, -⟩ := empty
      obtain ⟨c, edge, numeral⟩ := leads.exists_head
      have member : c ∈ before ++ [] ++ after := by
        rw [← divided, whole]
        exact List.mem_append_right _ (List.mem_of_mem_head? edge)
      have solid := isScriptBlank_of_isNumeralChar numeral
      rw [List.append_nil, List.mem_append] at member
      rw [member.elim (blankBefore c) (blankAfter c)] at solid
      cases solid
    · obtain ⟨first, more, rfl⟩ := List.exists_cons_of_ne_nil denotes.ne_nil
      have begun := dropWhile_isScriptBlank blank leads.exists_head
      have again := @dropWhile_isScriptBlank before (first :: more ++ after) blankBefore
        ⟨first, rfl, denotes.all_isNumeralChar first List.mem_cons_self⟩
      obtain rfl : rest = first :: more ++ after := by
        rw [← begun, ← again, ← whole, ← List.append_assoc, ← divided]
      have leads := (leadingInteger_append_iff denotes.ne_nil
        (undigited_of_isScriptBlank blankAfter)).mp leads
      exact ⟨⟨before, _, after, start, divided, leads, number, denotes, same⟩, blankBefore,
        blankAfter⟩
  · rintro ⟨⟨before, core, after, start, divided, leads, number, denotes, same⟩, blankBefore,
      blankAfter⟩
    have starts := (leadingInteger_append_iff denotes.ne_nil
      (undigited_of_isScriptBlank blankAfter)).mpr leads
    refine ⟨start, number, ⟨before, core ++ after, ?_, blankBefore, starts⟩,
      ⟨before, core, after, divided, blankBefore, blankAfter, .inr denotes⟩, same⟩
    rw [← List.append_assoc]
    exact divided

/-! ## Where the judgement differs -/

/-- The characters that are passed over after a number and are no blanks in a script. -/
def separators : Text := ['\x1c', '\x1d', '\x1e', '\x1f', '\u0085']

/-- The byte order mark, which is a blank in a script and is not passed over. -/
def byteOrderMark : Char := '\ufeff'

/--
Whether a text is an integer in a script that the judgement misses: for a blank
before it that is not ASCII, a byte order mark after it, or its size.
-/
def IsMissed (text : Text) : Prop :=
  ∃ division : Division text, division.IsScriptBlank ∧
    ((∃ c ∈ division.before, isAsciiBlank c = false) ∨ byteOrderMark ∈ division.after ∨
      division.start.isFinite = false)

/-- Whether a text is taken for an integer in spite of a separator after the number. -/
def IsMistaken (text : Text) : Prop :=
  ∃ division : Division text, division.IsBlank ∧ division.start.isFinite = true ∧
    ∃ c ∈ division.after, c ∈ separators

theorem isScriptBlank_of_isBlank {c : Char} (blank : isBlank c = true) (other : ¬ c ∈ separators) :
    isScriptBlank c = true := by
  have apart : c.toNat ≠ 0x1C ∧ c.toNat ≠ 0x1D ∧ c.toNat ≠ 0x1E ∧ c.toNat ≠ 0x1F ∧
      c.toNat ≠ 0x85 := by
    refine ⟨?_, ?_, ?_, ?_, ?_⟩ <;>
      exact fun code => other (by rw [← c.ofNat_toNat, code]; decide)
  simp only [isBlank, Bool.or_eq_true, Bool.and_eq_true, decide_eq_true_eq, beq_iff_eq] at blank
  simp only [isScriptBlank, Bool.or_eq_true, Bool.and_eq_true, decide_eq_true_eq, beq_iff_eq]
  omega

theorem isBlank_of_isScriptBlank {c : Char} (blank : isScriptBlank c = true)
    (other : c ≠ byteOrderMark) : isBlank c = true := by
  have apart : c.toNat ≠ 0xFEFF :=
    fun code => other (by rw [← c.ofNat_toNat, code]; rfl)
  simp only [isScriptBlank, Bool.or_eq_true, Bool.and_eq_true, decide_eq_true_eq,
    beq_iff_eq] at blank
  simp only [isBlank, Bool.or_eq_true, Bool.and_eq_true, decide_eq_true_eq, beq_iff_eq]
  omega

theorem not_isScriptBlank_of_separator {c : Char} (separator : c ∈ separators) :
    isScriptBlank c = false := by
  have each : (separators.all fun c => !isScriptBlank c) = true := by decide
  simpa using List.all_eq_true.mp each c separator

/-- A text that is neither missed nor mistaken is divided in the same way by a script. -/
theorem isScriptBlank_of_isBlank_division {text : Text} {division : Division text}
    (blank : division.IsBlank) (finite : division.start.isFinite = true)
    (sure : ¬ IsMistaken text) : division.IsScriptBlank := by
  refine ⟨fun c member => isScriptBlank_of_isAsciiBlank (List.all_eq_true.mp blank.1 c member),
    fun c member => ?_⟩
  apply isScriptBlank_of_isBlank (List.all_eq_true.mp blank.2 c member)
  exact fun separator => sure ⟨division, blank, finite, c, member, separator⟩

theorem isBlank_of_isScriptBlank_division {text : Text} {division : Division text}
    (blank : division.IsScriptBlank) (noticed : ¬ IsMissed text) :
    division.IsBlank ∧ division.start.isFinite = true := by
  refine ⟨⟨List.all_eq_true.mpr fun c member => ?_, List.all_eq_true.mpr fun c member => ?_⟩, ?_⟩
  · rw [← Bool.not_eq_false]
    exact fun wide => noticed ⟨division, blank, .inl ⟨c, member, wide⟩⟩
  · apply isBlank_of_isScriptBlank (blank.2 c member)
    rintro rfl
    exact noticed ⟨division, blank, .inr (.inl member)⟩
  · rw [← Bool.not_eq_false]
    exact fun infinite => noticed ⟨division, blank, .inr (.inr infinite)⟩

theorem not_isMissed_of_isBlank {text : Text} {division : Division text}
    (blank : division.IsBlank) (finite : division.start.isFinite = true) : ¬ IsMissed text := by
  rintro ⟨other, script, reason⟩
  obtain rfl := Division.eq_of_isLoose blank.isLoose script.isLoose
  rcases reason with ⟨c, member, wide⟩ | mark | infinite
  · rw [List.all_eq_true.mp blank.1 c member] at wide
    cases wide
  · cases (List.all_eq_true.mp blank.2 _ mark : isBlank byteOrderMark = true)
  · rw [finite] at infinite
    cases infinite

theorem not_isMistaken_of_isScriptBlank {text : Text} {division : Division text}
    (script : division.IsScriptBlank) : ¬ IsMistaken text := by
  rintro ⟨other, blank, -, c, member, separator⟩
  obtain rfl := Division.eq_of_isLoose script.isLoose blank.isLoose
  have solid := not_isScriptBlank_of_separator separator
  rw [script.2 c member] at solid
  cases solid

/--
Where a text is judged at all, the judgement is that of a script except for
the texts that are missed and those that are mistaken.
-/
theorem isNumeric_agrees_iff {text : Text} {judged : Bool}
    (returned : Value.isNumeric (.text text) = .ok judged) :
    (judged = true ↔ IsScriptInteger text) ↔ ¬ IsMissed text ∧ ¬ IsMistaken text := by
  rw [isInteger_iff_division returned, isScriptInteger_iff_division]
  constructor
  · intro agree
    constructor
    · rintro ⟨division, script, reason⟩
      obtain ⟨other, blank, finite⟩ := agree.mpr ⟨division, script⟩
      exact not_isMissed_of_isBlank blank finite ⟨division, script, reason⟩
    · rintro ⟨division, blank, finite, separated⟩
      obtain ⟨other, script⟩ := agree.mp ⟨division, blank, finite⟩
      exact not_isMistaken_of_isScriptBlank script ⟨division, blank, finite, separated⟩
  · rintro ⟨noticed, sure⟩
    constructor
    · rintro ⟨division, blank, finite⟩
      exact ⟨division, isScriptBlank_of_isBlank_division blank finite sure⟩
    · rintro ⟨division, script⟩
      exact ⟨division, isBlank_of_isScriptBlank_division script noticed⟩

/-- A sign, leading zeros, a point and an exponent, between an ASCII blank and a wide one. -/
theorem isNumeric_agrees_padded :
    Value.isNumeric (.text "\t-007.0e0\u3000".toList) = .ok true ∧
      IsScriptInteger "\t-007.0e0\u3000".toList := by
  have returned : isInteger "\t-007.0e0\u3000".toList = .ok true := by decide +kernel
  have unseparated : ("\t-007.0e0\u3000".toList.all fun c => !separators.contains c) = true := by
    decide +kernel
  obtain ⟨division, blank, finite⟩ := (isInteger_iff_division returned).mp rfl
  have sure : ¬ IsMistaken "\t-007.0e0\u3000".toList := by
    rintro ⟨other, -, -, c, member, separator⟩
    have inside : c ∈ "\t-007.0e0\u3000".toList := by
      rw [other.text_eq]
      exact List.mem_append_right _ member
    simpa [separator] using List.all_eq_true.mp unseparated c inside
  have numeric : Value.isNumeric (.text "\t-007.0e0\u3000".toList) = .ok true := returned
  exact ⟨numeric,
    ((isNumeric_agrees_iff numeric).mpr ⟨not_isMissed_of_isBlank blank finite, sure⟩).mp rfl⟩

/-- A script passes over a no-break space before a number. -/
theorem isNumeric_noBreakSpace :
    Value.isNumeric (.text "\u00a05".toList) = .ok false ∧
      IsScriptInteger "\u00a05".toList := by
  have core : isInteger ['5'] = .ok true := by decide +kernel
  have numeral : ∀ c ∈ ['5'], isNumeralChar c = true := List.all_eq_true.mp rfl
  obtain ⟨start, isWhole, -⟩ := (isInteger_iff_isWhole (List.cons_ne_nil _ _) numeral core).mp rfl
  refine ⟨by decide +kernel, isScriptInteger_iff_division.mpr
    ⟨⟨['\u00a0'], ['5'], [], start, rfl, isWhole⟩, List.all_eq_true.mp rfl, nofun⟩⟩

end HtmlJsx.ScriptNumber
