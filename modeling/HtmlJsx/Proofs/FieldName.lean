import HtmlJsx.Proofs.Separation
import HtmlJsx.Proofs.Serialization
import HtmlJsx.Style.Declaration
import Mathlib.Data.List.Nodup

/-!
# The names of style fields

A property name is a row of words with hyphens between them, and its field
name is the row in camel case: every hyphen is dropped and the letter after it
is put into upper case.  So the capitals show where the hyphens were, and a
field name can be spelled out with hyphens again.  Only the hyphen before `ms`
leaves no trace.

A hyphen that stands after another one is taken for the letter.  The two
hyphens at the start of a custom property are therefore written as one, and its
field name is no identifier.
-/

namespace HtmlJsx.FieldName

open Style

/-! ## Property names -/

/-- Whether a character is a lower-case letter or a digit. -/
def isNamePart (c : Char) : Bool :=
  c.isLower || c.isDigit

/-- Whether a text is a word: letters and digits after a first one of a given kind. -/
def isWord (starts : Char → Bool) : Text → Bool
  | [] => false
  | first :: more => starts first && more.all isNamePart

/-- Whether a text is a row of words with single hyphens between them. -/
def isHyphenated (starts : Char → Bool) (name : Text) : Bool :=
  (Text.pieces '-' name).all (isWord starts)

/--
A row of letters, digits and hyphens.  No hyphen stands at its end, and each
one stands before a letter or a digit of a given kind.
-/
inductive Row (starts : Char → Bool) : Text → Prop
  | nil : Row starts []
  | part {c : Char} {rest : Text} : isNamePart c = true → Row starts rest → Row starts (c :: rest)
  | hyphen {c : Char} {rest : Text} : starts c = true → isNamePart c = true →
      Row starts (c :: rest) → Row starts ('-' :: c :: rest)

/-- A text begins with its first piece, unless that is empty. -/
theorem eq_cons_of_pieces {separator c : Char} {text part : Text} {others : List Text}
    (cut : Text.pieces separator text = (c :: part) :: others) : ∃ rest, text = c :: rest := by
  cases text with
  | nil => cases cut
  | cons d rest =>
    by_cases found : d = separator
    · rw [Text.pieces, if_pos found] at cut
      cases cut
    · obtain ⟨first, more, later⟩ := Text.exists_pieces separator rest
      rw [Text.pieces_cons_of_ne found later] at cut
      cases cut
      exact ⟨rest, rfl⟩

section Row

variable {starts : Char → Bool} (parts : ∀ c, starts c = true → isNamePart c = true)

include parts

/-- The first word may have been begun before. -/
theorem row_of_pieces {name first : Text} {others : List Text}
    (cut : Text.pieces '-' name = first :: others) (begun : first.all isNamePart = true)
    (words : others.all (isWord starts) = true) : Row starts name := by
  induction name generalizing first others with
  | nil => exact .nil
  | cons c rest induction =>
    obtain ⟨part, more, later⟩ := Text.exists_pieces '-' rest
    by_cases hyphen : c = '-'
    · rw [Text.pieces, if_pos hyphen, later] at cut
      cases cut
      rw [List.all_cons, Bool.and_eq_true] at words
      cases part with
      | nil => cases words.1
      | cons d word =>
        obtain ⟨starting, tail⟩ := Bool.and_eq_true_iff.mp words.1
        obtain ⟨others, rfl⟩ := eq_cons_of_pieces later
        have whole : (d :: word).all isNamePart = true := by
          rw [List.all_cons, parts d starting, tail]
          rfl
        rw [hyphen]
        exact .hyphen starting (parts d starting) (induction later whole words.2)
    · rw [Text.pieces_cons_of_ne hyphen later] at cut
      cases cut
      rw [List.all_cons, Bool.and_eq_true] at begun
      exact .part begun.1 (induction later begun.2 words)

/-- A row of words begins with a character of the given kind. -/
theorem row_of_isHyphenated {name : Text} (hyphenated : isHyphenated starts name = true) :
    Row starts name ∧ ∃ c rest, name = c :: rest ∧ starts c = true := by
  obtain ⟨first, others, cut⟩ := Text.exists_pieces '-' name
  rw [isHyphenated, cut, List.all_cons, Bool.and_eq_true] at hyphenated
  obtain ⟨word, words⟩ := hyphenated
  cases first with
  | nil => cases word
  | cons c more =>
    obtain ⟨starting, tail⟩ := Bool.and_eq_true_iff.mp word
    have whole : (c :: more).all isNamePart = true := by
      rw [List.all_cons, parts c starting, tail]
      rfl
    obtain ⟨rest, rfl⟩ := eq_cons_of_pieces cut
    exact ⟨row_of_pieces parts cut whole words, c, rest, rfl, starting⟩

end Row

/-! ## Camel case -/

/-- Whether a character may stand at the start of an identifier. -/
def isIdentifierStart (c : Char) : Bool :=
  c.isAlpha || c == '_' || c == '$'

/-- Whether a character may stand in an identifier. -/
def isIdentifierPart (c : Char) : Bool :=
  isIdentifierStart c || c.isDigit

/-- Whether a text is an identifier, which needs no quotes as a field name. -/
def isIdentifier : Text → Bool
  | [] => false
  | first :: more => isIdentifierStart first && more.all isIdentifierPart

/-- A name with a hyphen and a small letter in place of every capital. -/
def hyphenated (name : Text) : Text :=
  name.flatMap fun c => if c.isUpper then ['-', c.toLower] else [c]

/-- What becomes of a letter or a digit in camel case. -/
structure IsCased (c : Char) : Prop where
  small : c.toNat < 128
  raised : Text.upperChar c = [c.toUpper]
  noHyphen : c ≠ '-'
  noBreak : c ≠ '\n'
  noCapital : c.isUpper = false
  part : isIdentifierPart c = true
  raisedPart : isIdentifierPart c.toUpper = true

/-- What becomes of a letter in camel case. -/
structure IsCasedLetter (c : Char) : Prop where
  starts : isIdentifierStart c = true
  raisedStarts : isIdentifierStart c.toUpper = true
  raisedCapital : c.toUpper.isUpper = true
  lowered : c.toUpper.toLower = c

/-- Letters and digits are few enough to look at each. -/
theorem IsCased.of_isNamePart {c : Char} (part : isNamePart c = true) : IsCased c := by
  have each : ∀ code < 128, isNamePart (Char.ofNat code) = true →
      Text.upperChar (Char.ofNat code) = [(Char.ofNat code).toUpper] ∧
        Char.ofNat code ≠ '-' ∧ Char.ofNat code ≠ '\n' ∧
        isIdentifierPart (Char.ofNat code) = true ∧
        isIdentifierPart (Char.ofNat code).toUpper = true := by
    decide +kernel
  have plain : Serialization.IsPlain c := by
    apply Serialization.IsPlain.of_isWordChar
    change (isNamePart c || c == '-') = true
    rw [part, Bool.true_or]
  have holds := each c.toNat plain.small
  rw [Char.ofNat_toNat] at holds
  obtain ⟨raised, noHyphen, noBreak, inside, raisedInside⟩ := holds part
  exact ⟨plain.small, raised, noHyphen, noBreak, plain.cased, inside, raisedInside⟩

theorem isNamePart_of_isLower {c : Char} (letter : c.isLower = true) : isNamePart c = true := by
  rw [isNamePart, letter, Bool.true_or]

theorem IsCasedLetter.of_isLower {c : Char} (letter : c.isLower = true) : IsCasedLetter c := by
  have each : ∀ code < 128, (Char.ofNat code).isLower = true →
      isIdentifierStart (Char.ofNat code) = true ∧
        isIdentifierStart (Char.ofNat code).toUpper = true ∧
        (Char.ofNat code).toUpper.isUpper = true ∧
        (Char.ofNat code).toUpper.toLower = Char.ofNat code := by
    decide +kernel
  have holds := each c.toNat (IsCased.of_isNamePart (isNamePart_of_isLower letter)).small
  rw [Char.ofNat_toNat] at holds
  obtain ⟨starts, raisedStarts, raisedCapital, lowered⟩ := holds letter
  exact ⟨starts, raisedStarts, raisedCapital, lowered⟩

theorem camelCase_cons {c : Char} (noHyphen : c ≠ '-') (rest : Text) :
    camelCase (c :: rest) = c :: camelCase rest := by
  cases rest with
  | nil => rfl
  | cons d rest =>
    rw [camelCase, if_neg]
    rintro ⟨hyphen, -⟩
    exact noHyphen hyphen

theorem camelCase_hyphen {c : Char} (noBreak : c ≠ '\n') (rest : Text) :
    camelCase ('-' :: c :: rest) = Text.upperChar c ++ camelCase rest := by
  rw [camelCase, if_pos ⟨rfl, noBreak⟩]

section Row

variable {starts : Char → Bool}

theorem isIdentifierPart_camelCase {name : Text} (row : Row starts name) :
    ∀ c ∈ camelCase name, isIdentifierPart c = true := by
  induction row with
  | nil => exact nofun
  | part inside _ induction =>
    have cased := IsCased.of_isNamePart inside
    rw [camelCase_cons cased.noHyphen, List.forall_mem_cons]
    exact ⟨cased.part, induction⟩
  | hyphen _ inside _ induction =>
    have cased := IsCased.of_isNamePart inside
    rw [camelCase_cons cased.noHyphen, List.forall_mem_cons] at induction
    rw [camelCase_hyphen cased.noBreak, cased.raised, List.singleton_append, List.forall_mem_cons]
    exact ⟨cased.raisedPart, induction.2⟩

/-- In camel case, a row that begins with a letter is an identifier, also after a hyphen. -/
theorem isIdentifier_camelCase {c : Char} {rest : Text} (letter : c.isLower = true)
    (row : Row starts (c :: rest)) :
    isIdentifier (camelCase (c :: rest)) = true ∧
      isIdentifier (camelCase ('-' :: c :: rest)) = true := by
  have cased := IsCased.of_isNamePart (isNamePart_of_isLower letter)
  have casedLetter := IsCasedLetter.of_isLower letter
  have parts := isIdentifierPart_camelCase row
  rw [camelCase_cons cased.noHyphen, List.forall_mem_cons] at parts
  have others : (camelCase rest).all isIdentifierPart = true := List.all_eq_true.mpr parts.2
  constructor
  · rw [camelCase_cons cased.noHyphen, isIdentifier, casedLetter.starts, others]
    rfl
  · rw [camelCase_hyphen cased.noBreak, cased.raised, List.singleton_append, isIdentifier,
      casedLetter.raisedStarts, others]
    rfl

end Row

theorem hyphen_not_mem_of_isIdentifier {name : Text} (identifier : isIdentifier name = true) :
    '-' ∉ name := by
  cases name with
  | nil => exact List.not_mem_nil
  | cons first more =>
    rw [isIdentifier, Bool.and_eq_true, List.all_eq_true] at identifier
    intro member
    rcases List.mem_cons.mp member with same | later
    · rw [← same] at identifier
      exact absurd identifier.1 (by decide)
    · exact absurd (identifier.2 _ later) (by decide)

/--
Spelled out with hyphens, the camel case of a row is the row again, if a letter
follows every hyphen.
-/
theorem hyphenated_camelCase {name : Text} (row : Row Char.isLower name) :
    hyphenated (camelCase name) = name := by
  have keeps {c : Char} (noCapital : c.isUpper = false) (rest : Text) :
      hyphenated (c :: rest) = c :: hyphenated rest := by
    rw [hyphenated, List.flatMap_cons, noCapital, if_neg Bool.false_ne_true]
    rfl
  induction row with
  | nil => rfl
  | part inside _ induction =>
    have cased := IsCased.of_isNamePart inside
    rw [camelCase_cons cased.noHyphen, keeps cased.noCapital, induction]
  | hyphen letter inside _ induction =>
    have cased := IsCased.of_isNamePart inside
    have casedLetter := IsCasedLetter.of_isLower letter
    rw [camelCase_cons cased.noHyphen, keeps cased.noCapital] at induction
    rw [camelCase_hyphen cased.noBreak, cased.raised, List.singleton_append, hyphenated,
      List.flatMap_cons, if_pos casedLetter.raisedCapital, casedLetter.lowered]
    exact congrArg ('-' :: ·) induction

/-! ## Identifiers as field names -/

/-- Whether a text begins with a letter and is a row of words. -/
def isPlainName (name : Text) : Bool :=
  name.head?.any Char.isLower && isHyphenated isNamePart name

/--
Whether a text is the name of a property: a row of words that begins with a
letter, perhaps after the hyphen of a vendor, or any row of words after the two
hyphens of a custom property.
-/
def isPropertyName : Text → Bool
  | '-' :: '-' :: name => isHyphenated isNamePart name
  | '-' :: name => isPlainName name
  | name => isPlainName name

theorem exists_of_isPlainName {name : Text} (named : isPlainName name = true) :
    ∃ c rest, name = c :: rest ∧ c.isLower = true ∧ Row isNamePart (c :: rest) := by
  rw [isPlainName, Bool.and_eq_true] at named
  obtain ⟨row, c, rest, rfl, -⟩ := row_of_isHyphenated (fun _ part => part) named.2
  exact ⟨c, rest, rfl, named.1, row⟩

/-- A property name as it is put into camel case: the hyphen before `ms` is left out. -/
def unmarked (name : Text) : Text :=
  if "-ms-".toList.isPrefixOf name then name.drop 1 else name

theorem fieldName_eq (name : Text) : fieldName name = camelCase (unmarked name) := rfl

theorem unmarked_of_ne {c : Char} (noHyphen : c ≠ '-') (rest : Text) :
    unmarked (c :: rest) = c :: rest := by
  have apart : "-ms-".toList.isPrefixOf (c :: rest) = false := by
    rw [← Bool.not_eq_true, List.isPrefixOf_iff_prefix]
    intro starts
    exact noHyphen (List.cons_prefix_cons.mp starts).1.symm
  rw [unmarked, apart, if_neg Bool.false_ne_true]

theorem unmarked_hyphen (rest : Text) :
    unmarked ('-' :: rest) = rest ∨ unmarked ('-' :: rest) = '-' :: rest := by
  rw [unmarked]
  split
  · exact .inl rfl
  · exact .inr rfl

/-- A row that begins with a letter has an identifier as its field name, also after a hyphen. -/
theorem isIdentifier_fieldName {starts : Char → Bool} {c : Char} {rest : Text}
    (letter : c.isLower = true) (row : Row starts (c :: rest)) :
    isIdentifier (fieldName (c :: rest)) = true ∧
      isIdentifier (fieldName ('-' :: c :: rest)) = true := by
  have noHyphen := (IsCased.of_isNamePart (isNamePart_of_isLower letter)).noHyphen
  obtain ⟨bare, hyphened⟩ := isIdentifier_camelCase letter row
  constructor
  · rw [fieldName_eq, unmarked_of_ne noHyphen]
    exact bare
  · rw [fieldName_eq]
    rcases unmarked_hyphen (c :: rest) with dropped | kept
    · rw [dropped]
      exact bare
    · rw [kept]
      exact hyphened

/-- Of two hyphens at the start the second is kept in place of a letter. -/
theorem fieldName_custom (rest : Text) :
    fieldName ('-' :: '-' :: rest) = '-' :: camelCase rest := by
  have raised : Text.upperChar '-' = ['-'] := by decide
  change camelCase ('-' :: '-' :: rest) = _
  rw [camelCase_hyphen (by decide), raised, List.singleton_append]

/--
The field name of a property is an identifier exactly if the property is no
custom one; of a custom property a hyphen is kept.
-/
theorem fieldName_isIdentifier_iff {name : Text} (named : isPropertyName name = true) :
    (isIdentifier (fieldName name) = true ↔ ¬ ['-', '-'] <+: name) ∧
      ('-' ∈ fieldName name ↔ ['-', '-'] <+: name) := by
  have ordinary (identifier : isIdentifier (fieldName name) = true)
      (single : ¬ ['-', '-'] <+: name) :
      (isIdentifier (fieldName name) = true ↔ ¬ ['-', '-'] <+: name) ∧
        ('-' ∈ fieldName name ↔ ['-', '-'] <+: name) :=
    ⟨iff_of_true identifier single,
      iff_of_false (hyphen_not_mem_of_isIdentifier identifier) single⟩
  rw [isPropertyName.eq_def] at named
  split at named
  · next rest =>
    have custom : ['-', '-'] <+: '-' :: '-' :: rest := List.prefix_append ['-', '-'] rest
    have kept : '-' ∈ fieldName ('-' :: '-' :: rest) := by
      rw [fieldName_custom]
      exact List.mem_cons_self
    refine ⟨iff_of_false ?_ (not_not_intro custom), iff_of_true kept custom⟩
    intro identifier
    exact hyphen_not_mem_of_isIdentifier identifier kept
  · next rest single =>
    obtain ⟨c, more, rfl, letter, row⟩ := exists_of_isPlainName named
    apply ordinary (isIdentifier_fieldName letter row).2
    rintro ⟨tail, same⟩
    exact single tail (List.cons.inj same).2.symm
  · next noHyphen =>
    obtain ⟨c, more, rfl, letter, row⟩ := exists_of_isPlainName named
    apply ordinary (isIdentifier_fieldName letter row).1
    rintro ⟨tail, same⟩
    exact noHyphen ('-' :: tail) same.symm

theorem fieldName_isIdentifier_iff_vendor :
    isPropertyName "-ms-grid-columns-2d".toList = true ∧
      isIdentifier (fieldName "-ms-grid-columns-2d".toList) = true := by
  have named : isPropertyName "-ms-grid-columns-2d".toList = true := by decide
  exact ⟨named, (fieldName_isIdentifier_iff named).1.mpr (by decide)⟩

/-- The field name of a custom property begins with a hyphen. -/
theorem customProperty_keeps_hyphen :
    isPropertyName "--main-color".toList = true ∧
      fieldName "--main-color".toList = "-mainColor".toList ∧
      isIdentifier (fieldName "--main-color".toList) = false := by
  decide

/-! ## Properties with the same field name -/

/-- Whether a text is words that begin with letters, joined by single hyphens, perhaps after one. -/
def isSegmented : Text → Bool
  | '-' :: name => isHyphenated Char.isLower name
  | name => isHyphenated Char.isLower name

/-- Two names that differ in the hyphen before `ms` only. -/
def AreTwins (marked bare : Text) : Prop :=
  ∃ rest, marked = "-ms-".toList ++ rest ∧ bare = "ms-".toList ++ rest

theorem row_of_isSegmented {name : Text} (segmented : isSegmented name = true) :
    Row Char.isLower name := by
  have parts (c : Char) (letter : c.isLower = true) := isNamePart_of_isLower letter
  rw [isSegmented.eq_def] at segmented
  split at segmented
  · obtain ⟨row, c, rest, rfl, letter⟩ := row_of_isHyphenated parts segmented
    exact .hyphen letter (parts c letter) row
  · exact (row_of_isHyphenated parts segmented).1

theorem row_unmarked {starts : Char → Bool} {name : Text} (row : Row starts name) :
    Row starts (unmarked name) := by
  cases row with
  | nil => exact .nil
  | part inside later =>
    rw [unmarked_of_ne (IsCased.of_isNamePart inside).noHyphen]
    exact .part inside later
  | @hyphen c rest starting inside later =>
    rcases unmarked_hyphen (c :: rest) with dropped | kept
    · rw [dropped]
      exact later
    · rw [kept]
      exact .hyphen starting inside later

theorem AreTwins.unmarked_eq {marked bare : Text} (twins : AreTwins marked bare) :
    unmarked marked = unmarked bare := by
  obtain ⟨rest, rfl, rfl⟩ := twins
  have starts : "-ms-".toList.isPrefixOf ("-ms-".toList ++ rest) = true :=
    List.isPrefixOf_iff_prefix.mpr (List.prefix_append _ rest)
  have bare : unmarked ("ms-".toList ++ rest) = "ms-".toList ++ rest :=
    unmarked_of_ne (by decide) _
  rw [bare, unmarked, if_pos starts]
  rfl

theorem AreTwins.ne {marked bare : Text} (twins : AreTwins marked bare) : marked ≠ bare := by
  obtain ⟨rest, rfl, rfl⟩ := twins
  intro same
  exact absurd (List.cons.inj same).1 (by decide)

/-- Names that agree without the mark are equal, or one of them has the mark. -/
theorem eq_or_twins_of_unmarked_eq {left right : Text} (same : unmarked left = unmarked right) :
    left = right ∨ AreTwins left right ∨ AreTwins right left := by
  rw [unmarked, unmarked] at same
  split at same
  · next markedLeft =>
    obtain ⟨restLeft, rfl⟩ := List.isPrefixOf_iff_prefix.mp markedLeft
    split at same
    · next markedRight =>
      obtain ⟨restRight, rfl⟩ := List.isPrefixOf_iff_prefix.mp markedRight
      exact .inl (congrArg ('-' :: ·) same)
    · exact .inr (.inl ⟨restLeft, rfl, same.symm⟩)
  · split at same
    · next markedRight =>
      obtain ⟨restRight, rfl⟩ := List.isPrefixOf_iff_prefix.mp markedRight
      exact .inr (.inr ⟨restRight, rfl, same⟩)
    · exact .inl same

/-- Segmented properties get the same field name only if they are equal but for the mark. -/
theorem fieldName_eq_iff {left right : Text} (segmentedLeft : isSegmented left = true)
    (segmentedRight : isSegmented right = true) :
    fieldName left = fieldName right ↔
      left = right ∨ AreTwins left right ∨ AreTwins right left := by
  constructor
  · intro same
    have spelled := congrArg hyphenated same
    rw [fieldName_eq, fieldName_eq,
      hyphenated_camelCase (row_unmarked (row_of_isSegmented segmentedLeft)),
      hyphenated_camelCase (row_unmarked (row_of_isSegmented segmentedRight))] at spelled
    exact eq_or_twins_of_unmarked_eq spelled
  · rintro (same | twins | twins)
    · rw [same]
    · rw [fieldName_eq, fieldName_eq, twins.unmarked_eq]
    · rw [fieldName_eq, fieldName_eq, twins.unmarked_eq]

/-- The properties of a style. -/
def properties (style : Style) : List Text :=
  style.map Prod.fst

/-- Setting a property keeps those that are there, and adds the property if it is new. -/
theorem properties_set (style : Style) (property value : Text) :
    properties (style.set property value) =
      if property ∈ properties style then properties style else properties style ++ [property] := by
  induction style with
  | nil => rfl
  | cons entry rest induction =>
    obtain ⟨name, old⟩ := entry
    rw [Style.set]
    by_cases same : name = property
    · rw [if_pos same, if_pos (by rw [properties, List.map_cons, same]; exact List.mem_cons_self)]
      rfl
    · have present : property ∈ properties ((name, old) :: rest) ↔ property ∈ properties rest := by
        rw [properties, List.map_cons, List.mem_cons]
        exact or_iff_right (Ne.symm same)
      rw [if_neg same, properties, List.map_cons, ← properties, induction]
      simp only [present]
      split <;> rfl

theorem nodup_properties_add {style : Style} (distinct : (properties style).Nodup)
    (source : Text) : (properties (style.add source)).Nodup := by
  rw [Style.add]
  split
  · exact distinct
  · rw [properties_set]
    split
    · exact distinct
    · next absent =>
      rw [List.nodup_append]
      refine ⟨distinct, List.nodup_singleton _, ?_⟩
      rintro left member right added rfl
      exact absent (List.mem_singleton.mp added ▸ member)

/-- No property stands in a style twice. -/
theorem nodup_properties_parse (source : Text) : (properties (parse source)).Nodup := by
  rw [parse]
  suffices kept : ∀ (sources : List Text) (style : Style), (properties style).Nodup →
      (properties (sources.foldl Style.add style)).Nodup from kept _ [] List.nodup_nil
  intro sources
  induction sources with
  | nil =>
    intro style distinct
    exact distinct
  | cons source rest induction =>
    intro style distinct
    exact induction _ (nodup_properties_add distinct source)

/--
Two segmented properties get the same field name exactly if they differ in the
hyphen before `ms` only.  So in the object of a style whose properties are
segmented no field stands twice, unless both of two such properties are set.
-/
theorem fieldName_eq_iff_twins :
    (∀ left right, isSegmented left = true → isSegmented right = true → left ≠ right →
      (fieldName left = fieldName right ↔ AreTwins left right ∨ AreTwins right left)) ∧
    ∀ source, (∀ property ∈ properties (parse source), isSegmented property = true) →
      (((properties (parse source)).map fieldName).Nodup ↔
        ∀ marked ∈ properties (parse source), ∀ bare ∈ properties (parse source),
          ¬ AreTwins marked bare) := by
  constructor
  · intro left right segmentedLeft segmentedRight distinct
    rw [fieldName_eq_iff segmentedLeft segmentedRight]
    exact or_iff_right distinct
  · intro source segmented
    rw [List.nodup_map_iff_inj_on (nodup_properties_parse source)]
    constructor
    · intro injective marked member bare memberBare twins
      have same := (fieldName_eq_iff (segmented marked member) (segmented bare memberBare)).mpr
        (.inr (.inl twins))
      exact twins.ne (injective marked member bare memberBare same)
    · intro apart left member right memberRight same
      rcases (fieldName_eq_iff (segmented left member) (segmented right memberRight)).mp same with
        equal | twins | twins
      · exact equal
      · exact absurd twins (apart left member right memberRight)
      · exact absurd twins (apart right memberRight left member)

/-- A style with a property of a vendor, set once with a hyphen before it and once without. -/
def vendorStyle : Text := "-ms-flex: 1; flex: 2; -moz-flex: 3; ms-flex: 4".toList

theorem fieldName_eq_iff_twins_vendorStyle :
    (∀ property ∈ properties (parse vendorStyle), isSegmented property = true) ∧
      ¬ ((properties (parse vendorStyle)).map fieldName).Nodup ∧
      fieldName "-moz-flex".toList ≠ fieldName "flex".toList := by
  have names : properties (parse vendorStyle) =
      ["-ms-flex".toList, "flex".toList, "-moz-flex".toList, "ms-flex".toList] := by
    decide +kernel
  have segmented : ∀ property ∈ properties (parse vendorStyle), isSegmented property = true := by
    rw [names]
    exact List.all_eq_true.mp (by decide)
  refine ⟨segmented, ?_, ?_⟩
  · intro distinct
    have apart := (fieldName_eq_iff_twins.2 vendorStyle segmented).mp distinct
    rw [names] at apart
    exact apart "-ms-flex".toList (by decide) "ms-flex".toList (by decide)
      ⟨"flex".toList, rfl, rfl⟩
  · intro same
    have twins := (fieldName_eq_iff_twins.1 "-moz-flex".toList "flex".toList (by decide) (by decide)
      (by decide)).mp same
    rcases twins with ⟨rest, wrong, -⟩ | ⟨rest, wrong, -⟩
    · cases wrong
    · cases wrong

end HtmlJsx.FieldName
