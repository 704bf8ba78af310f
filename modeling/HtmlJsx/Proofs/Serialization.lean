import HtmlJsx.Dom.Fragment
import HtmlJsx.Proofs.Lexing
import HtmlJsx.Proofs.Outcome

/-!
# Trees written as markup

A plain way to write a tree: every element with a start tag and an end tag,
every value between double quotes, and the characters that would be read as
markup escaped.  Reading what is written for a text, a tag or a comment leads
to the builder that has taken up just that.

Trees are written and read at any depth.  That a machine can run out of room for
a tree that is nested very deep is left out.
-/

namespace HtmlJsx.Serialization

open Lexer Outcome

/-! ## Names -/

/-- Whether a character may stand in the names that are written. -/
def isWordChar (c : Char) : Bool :=
  c.isLower || c.isDigit || c == '-'

/-- Whether a text is a lower-case letter followed by characters of a kind. -/
def isNameOf (kind : Char → Bool) : Text → Bool
  | [] => false
  | first :: more => first.isLower && more.all kind

/-- Whether a text is the name of an element: lower-case letters and digits. -/
def isTagName (name : Text) : Bool :=
  isNameOf (fun c => c.isLower || c.isDigit) name

/-- Whether a text is the name of an attribute: hyphens may stand in it too. -/
def isAttributeName (name : Text) : Bool :=
  isNameOf isWordChar name

/-- How the readers of tags take a character: as one that may stand in every name. -/
structure IsPlain (c : Char) : Prop where
  small : c.toNat < 128
  cased : c.isUpper = false
  solid : isBlank c = false
  inTag : Tag.isNameChar c = true
  starts : Tag.startsName c = true
  continues : Tag.continuesName c = true
  inEndTag : isEndNameChar c = true
  noSlash : c ≠ '/'
  noQuestion : c ≠ '?'
  noExclamation : c ≠ '!'

/-- Word characters are plain; they are few enough to look at each. -/
theorem IsPlain.of_isWordChar {c : Char} (word : isWordChar c = true) : IsPlain c := by
  have each : ∀ code < 128, isWordChar (Char.ofNat code) = true →
      (Char.ofNat code).isUpper = false ∧ isBlank (Char.ofNat code) = false ∧
        Tag.isNameChar (Char.ofNat code) = true ∧ Tag.startsName (Char.ofNat code) = true ∧
        Tag.continuesName (Char.ofNat code) = true ∧ isEndNameChar (Char.ofNat code) = true ∧
        Char.ofNat code ≠ '/' ∧ Char.ofNat code ≠ '?' ∧ Char.ofNat code ≠ '!' := by
    decide +kernel
  have small : c.toNat < 128 := by
    rw [isWordChar, Bool.or_eq_true, Bool.or_eq_true, beq_iff_eq] at word
    rcases word with (letter | digit) | rfl
    · exact Nat.lt_of_le_of_lt (of_decide_eq_true (Bool.and_eq_true_iff.mp letter).2) (by decide)
    · exact Nat.lt_of_le_of_lt (of_decide_eq_true (Bool.and_eq_true_iff.mp digit).2) (by decide)
    · decide
  have holds := each c.toNat small
  rw [Char.ofNat_toNat] at holds
  obtain ⟨cased, solid, inTag, starts, continues, inEndTag, noSlash, noQuestion, noExclamation⟩ :=
    holds word
  exact ⟨small, cased, solid, inTag, starts, continues, inEndTag, noSlash, noQuestion,
    noExclamation⟩

theorem isWordChar_of_isLower {c : Char} (lower : c.isLower = true) : isWordChar c = true := by
  simp [isWordChar, lower]

theorem isAlpha_of_isLower {c : Char} (lower : c.isLower = true) : c.isAlpha = true := by
  change (c.isUpper || c.isLower) = true
  rw [lower, Bool.or_true]

/-- Names consist of word characters. -/
theorem isWordChar_of_isNameOf {kind : Char → Bool} {name : Text} (named : isNameOf kind name = true)
    (words : ∀ c, kind c = true → isWordChar c = true) : ∀ c ∈ name, isWordChar c = true := by
  cases name with
  | nil => cases named
  | cons first more =>
    rw [isNameOf, Bool.and_eq_true, List.all_eq_true] at named
    rw [List.forall_mem_cons]
    exact ⟨isWordChar_of_isLower named.1, fun c member => words c (named.2 c member)⟩

theorem isWordChar_of_isTagName {tag : Text} (named : isTagName tag = true) :
    ∀ c ∈ tag, isWordChar c = true := by
  apply isWordChar_of_isNameOf named
  intro c kind
  rw [isWordChar, kind]
  rfl

theorem isWordChar_of_isAttributeName {name : Text} (named : isAttributeName name = true) :
    ∀ c ∈ name, isWordChar c = true :=
  isWordChar_of_isNameOf named fun _ word => word

/-- Names are in lower case. -/
theorem lower_eq_self {name : Text} (words : ∀ c ∈ name, isWordChar c = true) :
    Text.lower name = name := by
  have keeps (before : Text) : Text.lowerFrom before name = name := by
    induction name generalizing before with
    | nil => rfl
    | cons c rest induction =>
      rw [List.forall_mem_cons] at words
      have plain := IsPlain.of_isWordChar words.1
      rw [Text.lowerFrom, Text.lowerChar, if_pos plain.small, plain.cased, induction words.2]
      rfl
  exact keeps []

/--
A text that the reader of tags takes as it is for the name of an element: it
begins with a small letter, has no blank in it, and has no capital letter.
-/
structure IsElementName (tag : Text) : Prop where
  letter : ∃ first more, tag = first :: more ∧ first.isLower = true
  named : ∀ c ∈ tag, Tag.isNameChar c = true
  solid : ∀ c ∈ tag, isBlank c = false
  lowered : Text.lower tag = tag

theorem IsElementName.of_isTagName {tag : Text} (tagged : isTagName tag = true) :
    IsElementName tag where
  letter := by
    cases tag with
    | nil => cases tagged
    | cons first more =>
      rw [isTagName, isNameOf, Bool.and_eq_true] at tagged
      exact ⟨first, more, rfl, tagged.1⟩
  named c member := (IsPlain.of_isWordChar (isWordChar_of_isTagName tagged c member)).inTag
  solid c member := (IsPlain.of_isWordChar (isWordChar_of_isTagName tagged c member)).solid
  lowered := lower_eq_self (isWordChar_of_isTagName tagged)

/-- A text that the reader of tags takes for the name of an attribute. -/
def IsKey (name : Text) : Prop :=
  ∃ first more, name = first :: more ∧ Tag.startsName first = true ∧
    ∀ c ∈ more, Tag.continuesName c = true

theorem IsKey.of_isAttributeName {name : Text} (named : isAttributeName name = true) :
    IsKey name := by
  have words := isWordChar_of_isAttributeName named
  cases name with
  | nil => cases named
  | cons first more =>
    rw [List.forall_mem_cons] at words
    exact ⟨first, more, rfl, (IsPlain.of_isWordChar words.1).starts,
      fun c member => (IsPlain.of_isWordChar (words.2 c member)).continues⟩

/-! ## What is written -/

/-- Escape a character of a value. -/
def escapeValueChar (c : Char) : Text :=
  if c = '&' then "&amp;".toList else if c = '"' then "&quot;".toList else [c]

/-- Escape a value. -/
def escapeValue (value : Text) : Text :=
  value.flatMap escapeValueChar

/-- An attribute after a blank. -/
def assignment (given : Text × Text) : Text :=
  ' ' :: given.1 ++ '=' :: '"' :: escapeValue given.2 ++ ['"']

/-- A name after a blank with what stands between the double quotes of its value. -/
def quotation (entry : Text × Text) : Text :=
  ' ' :: entry.1 ++ '=' :: '"' :: entry.2 ++ ['"']

/-- Attributes are written as quotations of their escaped values. -/
theorem flatMap_assignment (attributes : Attributes) :
    attributes.flatMap assignment =
      (attributes.map fun given => (given.1, escapeValue given.2)).flatMap quotation := by
  rw [List.flatMap_map]
  rfl

/-- A start tag. -/
def startTag (tag : Text) (attributes : Attributes) : Text :=
  '<' :: tag ++ attributes.flatMap assignment ++ ['>']

/-- An end tag. -/
def endTag (tag : Text) : Text :=
  '<' :: '/' :: tag ++ ['>']

/-- A comment. -/
def comment (content : Text) : Text :=
  "<!--".toList ++ content ++ "-->".toList

/-! ## Reading texts -/

section Search

variable {test : Char → Bool} {front : Text} (all : ∀ c ∈ front, test c = true) {stop : Char}
  (stops : test stop = false) (rest : Text)

include all stops

theorem takeWhile_append_stop : (front ++ stop :: rest).takeWhile test = front := by
  rw [List.takeWhile_append_of_pos all, List.takeWhile_cons_of_neg (by simp [stops]),
    List.append_nil]

theorem dropWhile_append_stop : (front ++ stop :: rest).dropWhile test = stop :: rest := by
  rw [List.dropWhile_append_of_pos all, List.dropWhile_cons_of_neg (by simp [stops])]

end Search

theorem cut_append {mark : Char} {front : Text} (absent : mark ∉ front) (rest : Text) :
    Text.cut mark (front ++ mark :: rest) = some (front, rest) := by
  induction front with
  | nil => simp [Text.cut]
  | cons c front induction =>
    rw [List.mem_cons, not_or] at absent
    rw [List.cons_append, Text.cut, if_neg (fun same => absent.1 same.symm), induction absent.2]
    rfl

/-- The characters that are escaped have the names they are escaped with. -/
theorem any?_escaped :
    NamedCharacter.any? "amp".toList = some ['&'] ∧ NamedCharacter.any? "lt".toList = some ['<'] ∧
      NamedCharacter.any? "gt".toList = some ['>'] ∧
      NamedCharacter.any? "quot".toList = some ['"'] := by
  decide +kernel

theorem referenceText_eq {name characters : Text}
    (named : NamedCharacter.any? name = some characters) : referenceText name = characters := by
  rw [referenceText, named]
  rfl

theorem step_amp (rest : Text) :
    step false none '&' ("amp;".toList ++ rest) = .ok (.go ⟨[.text ['&']], none, rest⟩) := by
  rw [← referenceText_eq any?_escaped.1]
  rfl

theorem step_lt (rest : Text) :
    step false none '&' ("lt;".toList ++ rest) = .ok (.go ⟨[.text ['<']], none, rest⟩) := by
  rw [← referenceText_eq any?_escaped.2.1]
  rfl

theorem step_gt (rest : Text) :
    step false none '&' ("gt;".toList ++ rest) = .ok (.go ⟨[.text ['>']], none, rest⟩) := by
  rw [← referenceText_eq any?_escaped.2.2.1]
  rfl

theorem leads_escapeChar (c : Char) (builder : Builder) :
    Leads (Source.escapeChar c) builder (builder.take (.text [c])) := by
  rw [Source.escapeChar]
  split
  · next ampersand =>
    rw [ampersand]
    exact Leads.of_step (by decide) step_amp builder
  · next noAmpersand =>
    split
    · next less =>
      rw [less]
      exact Leads.of_step (by decide) step_lt builder
    · next noLess =>
      split
      · next greater =>
        rw [greater]
        exact Leads.of_step (by decide) step_gt builder
      · exact Leads.of_char (by simp [isMark, noAmpersand, noLess]) builder

/-- An escaped text is read as characters that belong to one run. -/
theorem leads_escape (text : Text) (builder : Builder) :
    Leads (Source.escape text) builder
      { builder with pending := builder.pending ++ text } := by
  induction text generalizing builder with
  | nil =>
    rw [List.append_nil]
    exact Leads.refl builder
  | cons c rest induction =>
    rw [Source.escape, List.flatMap_cons]
    have later := induction (builder.take (.text [c]))
    rw [Builder.take, List.append_assoc, List.singleton_append] at later
    exact (leads_escapeChar c builder).trans later

/-! ## Reading values -/

theorem named_eq {name characters : Text} (named : NamedCharacter.any? name = some characters) :
    Reference.named name true = characters := by
  simp only [Reference.named, if_true, named]

theorem resolveFrom_amp (rest : Text) :
    Reference.resolveFrom 0 ("&amp;".toList ++ rest) =
      (Reference.resolveFrom 0 rest).map ('&' :: ·) := by
  change (Reference.resolveFrom 0 rest).map (Reference.named "amp".toList true ++ ·) = _
  rw [named_eq any?_escaped.1]
  rfl

theorem resolveFrom_quot (rest : Text) :
    Reference.resolveFrom 0 ("&quot;".toList ++ rest) =
      (Reference.resolveFrom 0 rest).map ('"' :: ·) := by
  change (Reference.resolveFrom 0 rest).map (Reference.named "quot".toList true ++ ·) = _
  rw [named_eq any?_escaped.2.2.2]
  rfl

/-- The references of an escaped value are resolved to the value. -/
theorem resolve_escapeValue (value : Text) : Reference.resolve (escapeValue value) = .ok value := by
  rw [Reference.resolve]
  induction value with
  | nil => rfl
  | cons c rest induction =>
    rw [escapeValue, List.flatMap_cons, escapeValueChar, ← escapeValue]
    split
    · next ampersand => rw [resolveFrom_amp, induction, ampersand, Except.map]
    · next noAmpersand =>
      split
      · next quote => rw [resolveFrom_quot, induction, quote, Except.map]
      · rw [List.singleton_append, Reference.resolveFrom, if_neg noAmpersand, induction, Except.map]

theorem quote_not_mem_escapeValue (value : Text) : '"' ∉ escapeValue value := by
  rw [escapeValue, List.mem_flatMap]
  rintro ⟨c, -, member⟩
  rw [escapeValueChar] at member
  split at member
  · revert member
    decide
  · split at member
    · revert member
      decide
    · next noQuote => exact noQuote (List.mem_singleton.mp member).symm

/-! ## Reading tags -/

theorem attributesFrom_of_none {place : Tag.Place} (ended : Tag.attribute? place = none) :
    Tag.attributesFrom place = ([], place.rest) := by
  rw [Tag.attributesFrom]
  split
  · rfl
  · next found =>
    rw [ended] at found
    cases found

theorem attributesFrom_of_some {place next : Tag.Place} {name value : Text}
    (found : Tag.attribute? place = some (name, value, next)) :
    Tag.attributesFrom place =
      ((name, value) :: (Tag.attributesFrom next).1, (Tag.attributesFrom next).2) := by
  rw [Tag.attributesFrom]
  split
  · next ended =>
    rw [found] at ended
    cases ended
  · next same =>
    rw [found] at same
    cases same
    rfl

theorem value?_quoted {inside : Text} (absent : '"' ∉ inside) (rest : Text) :
    Tag.value? ('=' :: '"' :: inside ++ '"' :: rest) = some (inside, ⟨'"', rest⟩) := by
  change Tag.valueAfter? ['='] [] ('"' :: (inside ++ '"' :: rest)) = _
  rw [Tag.valueAfter?, if_pos (.inl rfl), cut_append absent]

theorem attribute?_quotation {name inside : Text} (key : IsKey name) (absent : '"' ∉ inside)
    (rest : Text) :
    Tag.attribute? ⟨' ', name ++ '=' :: '"' :: inside ++ '"' :: rest⟩ =
      some (name, inside, Tag.skipGap '"' rest) := by
  obtain ⟨first, more, rfl, starts, continues⟩ := key
  have stops : Tag.continuesName '=' = false := by decide
  have boundary : Tag.isBoundary ' ' = true := by decide
  rw [List.append_assoc, List.cons_append, List.cons_append, Tag.attribute?]
  dsimp only
  rw [boundary, starts, Bool.and_self, if_pos rfl,
    takeWhile_append_stop continues stops, dropWhile_append_stop continues stops,
    ← List.cons_append, value?_quoted absent]

theorem skipGap_key {name : Text} (key : IsKey name) (passed : Char) (rest : Text) :
    Tag.skipGap passed (' ' :: name ++ rest) = ⟨' ', name ++ rest⟩ := by
  obtain ⟨first, more, rfl, starts, -⟩ := key
  have gap : isBlank ' ' = true := by decide
  have begins : isBlank first = false ∧ (first == '/') = false := by
    rw [Tag.startsName, Bool.not_eq_true', Bool.or_eq_false_iff, Bool.or_eq_false_iff] at starts
    exact starts.1
  rw [List.cons_append, Tag.skipGap, gap, Bool.true_or, if_pos rfl, List.cons_append, Tag.skipGap,
    if_neg]
  simp [begins.1, begins.2]

/-- Attributes are read one after the other up to the bracket. -/
theorem attributesFrom_quotations {entries : List (Text × Text)}
    (keys : ∀ entry ∈ entries, IsKey entry.1 ∧ '"' ∉ entry.2) (passed : Char) (rest : Text) :
    Tag.attributesFrom (Tag.skipGap passed (entries.flatMap quotation ++ '>' :: rest)) =
      (entries, '>' :: rest) := by
  induction entries generalizing passed with
  | nil =>
    have ended : Tag.skipGap passed ('>' :: rest) = ⟨passed, '>' :: rest⟩ := rfl
    rw [List.flatMap_nil, List.nil_append, ended, attributesFrom_of_none]
    rw [Tag.attribute?]
    dsimp only
    rw [if_neg]
    rw [Bool.and_eq_true]
    exact fun wrong => absurd wrong.2 (by decide)
  | cons entry others induction =>
    rw [List.forall_mem_cons] at keys
    obtain ⟨⟨key, absent⟩, keys⟩ := keys
    have shape : (entry :: others).flatMap quotation ++ '>' :: rest =
        ' ' :: entry.1 ++ ('=' :: '"' :: entry.2 ++
          '"' :: (others.flatMap quotation ++ '>' :: rest)) := by
      simp [quotation]
    rw [shape, skipGap_key key, ← List.append_assoc,
      attributesFrom_of_some (attribute?_quotation key absent _), induction keys]

theorem body_quotations {tag : Text} (named : ∀ c ∈ tag, Tag.isNameChar c = true)
    {entries : List (Text × Text)} (keys : ∀ entry ∈ entries, IsKey entry.1 ∧ '"' ∉ entry.2)
    (rest : Text) :
    Tag.body (tag ++ (entries.flatMap quotation ++ '>' :: rest)) =
      ⟨tag, entries, '>' :: rest⟩ := by
  obtain ⟨stop, after, shape, stops⟩ : ∃ stop after,
      entries.flatMap quotation ++ '>' :: rest = stop :: after ∧
        Tag.isNameChar stop = false := by
    cases entries with
    | nil => exact ⟨'>', rest, rfl, by decide⟩
    | cons entry others => exact ⟨' ', _, rfl, by decide⟩
  have read := attributesFrom_quotations keys (Tag.lastOf '<' tag) rest
  rw [shape] at read
  rw [Tag.body, shape, takeWhile_append_stop named stops, dropWhile_append_stop named stops]
  dsimp only
  rw [read]

/-- Names are lowered and values are resolved to what they were written for. -/
theorem resolveAttributes_map {write : Text → Text} {attributes : Attributes}
    (read : ∀ given ∈ attributes, Reference.resolve (write given.2) = .ok given.2) :
    Tag.resolveAttributes (attributes.map fun given => (given.1, write given.2)) =
      .ok (attributes.map fun given => (Text.lower given.1, given.2)) := by
  induction attributes with
  | nil => rfl
  | cons given others induction =>
    rw [List.forall_mem_cons] at read
    rw [List.map_cons, Tag.resolveAttributes, read.1, induction read.2]
    rfl

theorem resolveAttributes_written {attributes : Attributes}
    (named : ∀ given ∈ attributes, isAttributeName given.1 = true) :
    Tag.resolveAttributes (attributes.map fun given => (given.1, escapeValue given.2)) =
      .ok attributes := by
  have kept : (attributes.map fun given => (Text.lower given.1, given.2)) = attributes.map id := by
    apply List.map_congr_left
    intro given member
    rw [lower_eq_self (isWordChar_of_isAttributeName (named given member))]
    rfl
  rw [resolveAttributes_map fun given _ => resolve_escapeValue given.2, kept, List.map_id]

/-- An opening bracket before a letter begins a start tag. -/
theorem construct?_letter {mode : Mode} {first : Char} (letter : first.isLower = true) (more : Text) :
    construct? mode (first :: more) = startTag? (first :: more) := by
  have plain := IsPlain.of_isWordChar (isWordChar_of_isLower letter)
  rw [construct?.eq_def]
  split
  · next wrong => cases wrong
  · next same => exact absurd (List.cons.inj same).1 plain.noSlash
  · next same => exact absurd (List.cons.inj same).1 plain.noQuestion
  · next same => exact absurd (List.cons.inj same).1 plain.noExclamation
  · next same =>
    obtain ⟨rfl, rfl⟩ := List.cons.inj same
    rw [if_pos (isAlpha_of_isLower letter)]

/-- The step at a start tag; the contents of a raw element are to be read in its own mode. -/
theorem step_startTag {tag : Text} (named : IsElementName tag) {entries : List (Text × Text)}
    (keys : ∀ entry ∈ entries, IsKey entry.1 ∧ '"' ∉ entry.2) {attributes : Attributes}
    (resolved : Tag.resolveAttributes entries = .ok attributes) (rest : Text) :
    step false none '<' (tag ++ entries.flatMap quotation ++ ['>'] ++ rest) =
      .ok (.go ⟨[.start tag attributes], if rawElements.contains tag then some tag else none,
        rest⟩) := by
  have read : startTag? (tag ++ (entries.flatMap quotation ++ '>' :: rest)) =
      .ok (some ⟨[.start tag attributes], if rawElements.contains tag then some tag else none,
        rest⟩) := by
    rw [startTag?, body_quotations named.named keys]
    dsimp only
    rw [resolved, named.lowered]
    rfl
  rw [List.append_assoc, List.append_assoc, List.singleton_append, step, if_pos rfl, bracketStep]
  obtain ⟨first, more, rfl, letter⟩ := named.letter
  rw [List.cons_append] at read ⊢
  rw [construct?_letter letter, read]
  rfl

/-- A start tag with quotations is read as the start of its element. -/
theorem leads_quotations {tag : Text} (named : IsElementName tag) (markup : tag ∉ rawElements)
    {entries : List (Text × Text)} (keys : ∀ entry ∈ entries, IsKey entry.1 ∧ '"' ∉ entry.2)
    {attributes : Attributes} (resolved : Tag.resolveAttributes entries = .ok attributes)
    (builder : Builder) :
    Leads ('<' :: tag ++ entries.flatMap quotation ++ ['>']) builder
      (builder.take (.start tag attributes)) := by
  have mode : rawElements.contains tag = false := by simpa using markup
  have stepped (rest : Text) : step false none '<' (tag ++ entries.flatMap quotation ++ ['>'] ++ rest) =
      .ok (.go ⟨[.start tag attributes], none, rest⟩) := by
    rw [step_startTag named keys resolved, mode]
    rfl
  exact Leads.of_step (by decide) stepped builder

/-- A start tag is read as the start of its element. -/
theorem leads_startTag {tag : Text} (tagged : isTagName tag = true) (markup : tag ∉ rawElements)
    {attributes : Attributes} (named : ∀ given ∈ attributes, isAttributeName given.1 = true)
    (builder : Builder) :
    Leads (startTag tag attributes) builder (builder.take (.start tag attributes)) := by
  rw [startTag, flatMap_assignment]
  refine leads_quotations (.of_isTagName tagged) markup ?_ (resolveAttributes_written named) builder
  intro entry member
  obtain ⟨given, inAttributes, rfl⟩ := List.mem_map.mp member
  exact ⟨.of_isAttributeName (named given inAttributes), quote_not_mem_escapeValue given.2⟩

/-- Whether a name can be read in a plain end tag: a letter and characters of such names. -/
def isPlainName : Text → Bool
  | [] => false
  | first :: more => first.isAlpha && more.all isEndNameChar

theorem toNat_of_isAlpha {c : Char} (letter : c.isAlpha = true) : c.toNat < 128 := by
  rcases Bool.or_eq_true_iff.mp letter with upper | lower
  · exact Nat.lt_of_le_of_lt (of_decide_eq_true upper).2 (by decide)
  · exact Nat.lt_of_le_of_lt (of_decide_eq_true (Bool.and_eq_true_iff.mp lower).2) (by decide)

/-- The characters of plain names are few, and no blank is among them. -/
theorem small_of_isEndNameChar {c : Char} (named : isEndNameChar c = true) :
    c.toNat < 128 ∧ isBlank c = false := by
  have small : c.toNat < 128 := by
    simp only [isEndNameChar, Bool.or_eq_true, beq_iff_eq] at named
    rcases named with (((alphanumeric | rfl) | rfl) | rfl) | rfl
    · rcases Bool.or_eq_true_iff.mp alphanumeric with letter | digit
      · exact toNat_of_isAlpha letter
      · exact Nat.lt_of_le_of_lt (of_decide_eq_true (Bool.and_eq_true_iff.mp digit).2) (by decide)
    · decide
    · decide
    · decide
    · decide
  have each : ∀ code < 128, isEndNameChar (Char.ofNat code) = true →
      isBlank (Char.ofNat code) = false := by
    decide +kernel
  have holds := each c.toNat small
  rw [Char.ofNat_toNat] at holds
  exact ⟨small, holds named⟩

theorem small_of_isPlainName {name : Text} (plain : isPlainName name = true) :
    ∀ c ∈ name, c.toNat < 128 := by
  cases name with
  | nil => cases plain
  | cons first more =>
    rw [isPlainName, Bool.and_eq_true, List.all_eq_true] at plain
    rw [List.forall_mem_cons]
    exact ⟨toNat_of_isAlpha plain.1, fun c member => (small_of_isEndNameChar (plain.2 c member)).1⟩

/-- The name in an end tag, with blanks around it, is read if it is plain. -/
theorem plainEndName?_eq {blanks name more : Text} (blank : blanks.isBlank = true)
    (blankMore : more.isBlank = true) (nonempty : name ≠ [])
    (solid : ∀ c ∈ name, isBlank c = false) (within : '>' ∉ name) (rest : Text) :
    plainEndName? (blanks ++ (name ++ (more ++ '>' :: rest))) =
      if isPlainName name then some name else none := by
  obtain ⟨first, tail, rfl⟩ := List.exists_cons_of_ne_nil nonempty
  rw [List.forall_mem_cons] at solid
  rw [List.mem_cons, not_or] at within
  have bracket : (more ++ '>' :: rest).dropWhile isBlank = '>' :: rest :=
    dropWhile_append_stop (List.all_eq_true.mp blankMore) (by decide) rest
  obtain ⟨stop, after, shape, stops⟩ : ∃ stop after,
      more ++ '>' :: rest = stop :: after ∧ isEndNameChar stop = false := by
    cases more with
    | nil => exact ⟨'>', rest, rfl, by decide⟩
    | cons c others =>
      refine ⟨c, others ++ '>' :: rest, rfl, ?_⟩
      rw [← Bool.not_eq_true]
      intro named
      have wrong := List.all_eq_true.mp blankMore c List.mem_cons_self
      rw [(small_of_isEndNameChar named).2] at wrong
      cases wrong
  rw [plainEndName?, List.dropWhile_append_of_pos (List.all_eq_true.mp blank), List.cons_append,
    List.dropWhile_cons_of_neg (by simp [solid.1]), isPlainName]
  dsimp only
  cases letter : first.isAlpha with
  | false => rfl
  | true =>
    rw [if_pos rfl, Bool.true_and]
    cases left : tail.dropWhile isEndNameChar with
    | nil =>
      have whole : tail.takeWhile isEndNameChar = tail := by
        rw [← List.append_nil (tail.takeWhile isEndNameChar), ← left,
          List.takeWhile_append_dropWhile]
      have all : tail.all isEndNameChar = true := by
        rw [← whole]
        exact List.all_takeWhile
      rw [shape, dropWhile_append_stop (List.all_eq_true.mp all) stops,
        takeWhile_append_stop (List.all_eq_true.mp all) stops, ← shape, bracket, if_pos all]
      rfl
    | cons c others =>
      have member : c ∈ tail := (List.dropWhile_sublist isEndNameChar).subset
        (by rw [left]; exact List.mem_cons_self)
      have other : isEndNameChar c = false := by
        have rejected := List.head_dropWhile_not isEndNameChar (l := tail) (by rw [left]; simp)
        simpa [left] using rejected
      have some : ¬ tail.all isEndNameChar = true := by
        intro all
        have wrong := List.all_eq_true.mp all c member
        rw [other] at wrong
        cases wrong
      rw [if_neg some, List.dropWhile_append, left, if_neg (by simp), List.cons_append,
        List.dropWhile_cons_of_neg (by simp [solid.2 c member])]
      split
      · next found =>
        rw [(List.cons.inj found).1] at member
        exact absurd member within.2
      · rfl

/-- An end tag is read as the end of its element. -/
theorem leads_elementEnd {tag : Text} (named : IsElementName tag) (builder : Builder) :
    Leads (endTag tag) builder (builder.take (.stop tag)) := by
  have absent : '>' ∉ tag := by
    intro member
    exact absurd (named.named '>' member) (by decide)
  have stepped (rest : Text) : step false none '<' ('/' :: tag ++ ['>'] ++ rest) =
      .ok (.go ⟨[.stop tag], none, rest⟩) := by
    have read : endTag? none (tag ++ '>' :: rest) = some ⟨[.stop tag], none, rest⟩ := by
      obtain ⟨first, more, rfl, letter⟩ := named.letter
      have plain : plainEndName? ([] ++ (first :: more ++ ([] ++ '>' :: rest))) = _ :=
        plainEndName?_eq rfl rfl (List.cons_ne_nil first more) named.solid absent rest
      rw [List.nil_append, List.nil_append] at plain
      rw [endTag?, cut_append absent, plain]
      cases isPlainName (first :: more) with
      | true =>
        change some (⟨[.stop (Text.lower (first :: more))], none, rest⟩ : Reading) = _
        rw [named.lowered]
      | false =>
        change (if first.isAlpha = true then _ else _) = _
        rw [if_pos (isAlpha_of_isLower letter),
          takeWhile_append_stop named.named (by decide : Tag.isNameChar '>' = false), named.lowered]
    rw [List.append_assoc, List.singleton_append, List.cons_append, step, if_pos rfl, bracketStep]
    change Except.map _ (.ok (endTag? none (tag ++ '>' :: rest))) = _
    rw [read]
    rfl
  exact Leads.of_step (by decide) stepped builder

theorem leads_endTag {tag : Text} (tagged : isTagName tag = true) (builder : Builder) :
    Leads (endTag tag) builder (builder.take (.stop tag)) :=
  leads_elementEnd (.of_isTagName tagged) builder

/-! ## Reading comments -/

/-- Whether no end of a comment, with or without blanks in it, occurs in a text. -/
def IsCommentText (content : Text) : Prop :=
  ∀ blanks : Text, blanks.isBlank = true → ¬ '-' :: '-' :: blanks ++ ['>'] <:+: content

theorem IsCommentText.tail {c : Char} {content : Text} (proper : IsCommentText (c :: content)) :
    IsCommentText content := by
  intro blanks blank within
  exact proper blanks blank (within.trans (List.suffix_cons c content).isInfix)

/-- A bracket after blanks, before any hyphen, stands in the text before the hyphen. -/
theorem bracket_of_dropWhile {content rest after : Text}
    (found : (content ++ '-' :: rest).dropWhile isBlank = '>' :: after) :
    ∃ blanks more : Text, blanks.isBlank = true ∧ content = blanks ++ '>' :: more := by
  induction content with
  | nil => cases found
  | cons c content induction =>
    cases blank : isBlank c with
    | true =>
      rw [List.cons_append, List.dropWhile_cons_of_pos blank] at found
      obtain ⟨blanks, more, allBlank, rfl⟩ := induction found
      exact ⟨c :: blanks, more, by simpa [Text.isBlank, blank] using allBlank, rfl⟩
    | false =>
      rw [List.cons_append, List.dropWhile_cons_of_neg (by simp [blank])] at found
      exact ⟨[], content, rfl, by rw [(List.cons.inj found).1, List.nil_append]⟩

/-- The text of a comment does not begin with the end of a comment, whatever follows it. -/
theorem commentEnd?_eq_none {c : Char} {content : Text} (proper : IsCommentText (c :: content))
    (rest : Text) : commentEnd? (c :: content ++ "-->".toList ++ rest) = none := by
  rw [← Option.not_isSome_iff_eq_none]
  intro ends
  obtain ⟨after, found⟩ := Option.isSome_iff_exists.mp ends
  rw [commentEnd?.eq_def] at found
  split at found
  · next more same =>
    rw [afterBracket?] at found
    split at found
    · next bracket =>
      obtain ⟨rfl, tail⟩ := List.cons.inj same
      cases content with
      | nil =>
        obtain rfl : '-' :: '>' :: rest = more := (List.cons.inj tail).2
        cases bracket
      | cons d content =>
        obtain rfl : d = '-' := (List.cons.inj tail).1
        obtain rfl : content ++ "-->".toList ++ rest = more := (List.cons.inj tail).2
        rw [List.append_assoc] at bracket
        obtain ⟨blanks, others, blank, rfl⟩ := bracket_of_dropWhile bracket
        apply proper blanks blank
        exact ⟨[], others, by simp⟩
    · cases found
  · cases found

theorem until?_comment {content : Text} (proper : IsCommentText content) (rest : Text) :
    until? commentEnd? (content ++ "-->".toList ++ rest) = some (content, rest) := by
  induction content with
  | nil => rfl
  | cons c content induction =>
    have apart := commentEnd?_eq_none proper rest
    rw [List.cons_append, List.cons_append] at apart ⊢
    rw [until?, apart]
    dsimp only
    rw [induction proper.tail]
    rfl

/-- A comment is read as a comment of its text. -/
theorem leads_comment {content : Text} (proper : IsCommentText content) (builder : Builder) :
    Leads (comment content) builder (builder.take (.comment content)) := by
  have stepped (rest : Text) : step false none '<' ("!--".toList ++ content ++ "-->".toList ++ rest) =
      .ok (.go ⟨[.comment content], none, rest⟩) := by
    have shape : "!--".toList ++ content ++ "-->".toList ++ rest =
        '!' :: '-' :: '-' :: (content ++ "-->".toList ++ rest) := by simp
    rw [shape, step, if_pos rfl, bracketStep, construct?, declaration?, until?_comment proper]
    rfl
  exact Leads.of_step (by decide) stepped builder

end HtmlJsx.Serialization
