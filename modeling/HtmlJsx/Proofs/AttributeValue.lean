import HtmlJsx.Jsx.Conversion
import HtmlJsx.Proofs.Meaning
import HtmlJsx.Proofs.Serialization
import HtmlJsx.Proofs.Structure

/-!
# What attribute values mean

A value between double quotes is read with its character references resolved:
an ampersand, a word and a semicolon stand for the characters that the word
names.  Quotes in a value are written as references, so the value ends where
it should; ampersands are written as they are.  So what is written denotes the
value with its references resolved, and that is the value itself exactly if no
reference occurs in it.

This does not depend on the table of names.  It holds for every dictionary in
which the quotation mark has a name and references are longer than what they
stand for, as is the case in markup.
-/

namespace HtmlJsx

open Meaning

/-- Whether a character may stand in the word of a reference. -/
def isReferenceChar (c : Char) : Bool :=
  c.isAlphanum || c == '#'

/-- What the words between an ampersand and a semicolon stand for. -/
structure Dictionary where
  meaning? : Text → Option Text
  names_quote : meaning? "quot".toList = some ['"']
  shortens : ∀ word meaning, meaning? word = some meaning → meaning.length < word.length + 2

namespace Dictionary

/-- The reference that a text begins with. -/
def reference? (dictionary : Dictionary) : Forms
  | '&' :: rest =>
    let word := rest.takeWhile isReferenceChar
    match rest.dropWhile isReferenceChar with
    | ';' :: _ => (dictionary.meaning? word).map (word.length + 2, ·)
    | _ => none
  | _ => none

/-- Whether a reference occurs in a text. -/
def OccursIn (dictionary : Dictionary) (text : Text) : Prop :=
  ∃ before word after meaning, text = before ++ ('&' :: word ++ ';' :: after) ∧
    (∀ c ∈ word, isReferenceChar c = true) ∧ dictionary.meaning? word = some meaning

/-! ## The references of markup -/

/-- What the digits after a number sign stand for. -/
def numbered? (digits : Text) : Option Text :=
  match Lexer.referenceDigits? digits with
  | some (base, digits, []) =>
    if digits.isEmpty then none else some [Reference.character (Binary64.readDigits base digits)]
  | _ => none

/-- What a word stands for in markup: a number or a name. -/
def markupMeaning? : Text → Option Text
  | '#' :: digits => numbered? digits
  | word => NamedCharacter.any? word

theorem length_of_numbered? {digits meaning : Text} (found : numbered? digits = some meaning) :
    meaning.length = 1 := by
  rw [numbered?] at found
  split at found
  · split at found
    · cases found
    · cases found
      rfl
  · cases found

/-- No name denotes more than two characters. -/
theorem length_of_mem_names :
    (∀ entry ∈ NamedCharacter.legacy, entry.2.length ≤ 2) ∧
      ∀ group ∈ NamedCharacter.byLetter, ∀ entry ∈ group.2, entry.2.length ≤ 2 := by
  decide +kernel

theorem length_of_find? {names : List (String × List Nat)}
    (short : ∀ entry ∈ names, entry.2.length ≤ 2) {word meaning : Text}
    (found : NamedCharacter.find? word names = some meaning) : meaning.length ≤ 2 := by
  rw [NamedCharacter.find?, Option.map_eq_some_iff] at found
  obtain ⟨codes, entry, rfl⟩ := found
  rw [List.length_map]
  exact short _ (mem_of_lookup entry)

theorem length_of_any? {word meaning : Text} (found : NamedCharacter.any? word = some meaning) :
    meaning.length ≤ 2 := by
  rw [NamedCharacter.any?.eq_def] at found
  split at found
  · next legacy =>
    cases found
    exact length_of_find? length_of_mem_names.1 legacy
  · cases word with
    | nil => cases found
    | cons first more =>
      dsimp only at found
      cases group : NamedCharacter.byLetter.lookup first.toLower with
      | none =>
        rw [group] at found
        cases found
      | some names =>
        rw [group] at found
        exact length_of_find? (length_of_mem_names.2 _ (mem_of_lookup group)) found

/-- The dictionary of markup. -/
def markup : Dictionary where
  meaning? := markupMeaning?
  names_quote := Serialization.any?_escaped.2.2.2
  shortens := by
    intro word meaning found
    rw [markupMeaning?.eq_def] at found
    split at found
    · rw [length_of_numbered? found, List.length_cons]
      omega
    · have short := length_of_any? found
      cases word with
      | nil => cases found
      | cons c word =>
        rw [List.length_cons]
        omega

/-! ## Reading references -/

variable {dictionary : Dictionary}

theorem reference?_append {word : Text} (proper : ∀ c ∈ word, isReferenceChar c = true)
    (after : Text) :
    dictionary.reference? ('&' :: word ++ ';' :: after) =
      (dictionary.meaning? word).map (word.length + 2, ·) := by
  have stops : isReferenceChar ';' = false := by decide
  rw [List.cons_append, reference?, Serialization.takeWhile_append_stop proper stops,
    Serialization.dropWhile_append_stop proper stops]
  rfl

/-- What is recognised is an ampersand, a word with a meaning and a semicolon. -/
theorem eq_of_reference? {text meaning : Text} {length : Nat}
    (found : dictionary.reference? text = some (length, meaning)) :
    ∃ word after, text = '&' :: word ++ ';' :: after ∧ (∀ c ∈ word, isReferenceChar c = true) ∧
      dictionary.meaning? word = some meaning ∧ length = word.length + 2 := by
  rw [reference?.eq_def] at found
  split at found
  · next rest =>
    dsimp only at found
    split at found
    · next after ends =>
      obtain ⟨characters, named, same⟩ := Option.map_eq_some_iff.mp found
      obtain ⟨rfl, rfl⟩ := Prod.mk.inj same
      refine ⟨_, after, ?_, List.all_eq_true.mp List.all_takeWhile, named, rfl⟩
      rw [← ends, List.cons_append, List.takeWhile_append_dropWhile]
    · cases found
  · cases found

theorem shrinks_reference? (dictionary : Dictionary) : Shrinks dictionary.reference? := by
  intro text length meaning found
  obtain ⟨word, after, rfl, -, named, rfl⟩ := eq_of_reference? found
  refine ⟨dictionary.shortens word meaning named, ?_⟩
  simp only [List.length_append, List.length_cons]
  omega

theorem occursIn_iff {text : Text} :
    dictionary.OccursIn text ↔ ∃ suffix, suffix <:+ text ∧ dictionary.reference? suffix ≠ none := by
  constructor
  · rintro ⟨before, word, after, meaning, rfl, proper, named⟩
    refine ⟨_, List.suffix_append .., ?_⟩
    rw [reference?_append proper, named]
    exact Option.some_ne_none _
  · rintro ⟨suffix, ⟨before, rfl⟩, found⟩
    obtain ⟨⟨length, meaning⟩, recognised⟩ := Option.ne_none_iff_exists'.mp found
    obtain ⟨word, after, rfl, proper, named, -⟩ := eq_of_reference? recognised
    exact ⟨before, word, after, meaning, rfl, proper, named⟩

/-- A text is read as itself exactly if no reference occurs in it. -/
theorem denoted_eq_self_iff_not_occursIn (text : Text) :
    denoted dictionary.reference? text = text ↔ ¬ dictionary.OccursIn text := by
  rw [denoted_eq_self_iff dictionary.shrinks_reference?, occursIn_iff]
  constructor
  · rintro none ⟨suffix, ends, found⟩
    exact found (none suffix ends)
  · intro absent suffix ends
    by_contra found
    exact absent ⟨suffix, ends, found⟩

/-! ## Quotes written as references -/

/-- What is written for a value between double quotes. -/
def quoted (value : Text) : Text :=
  value.flatMap fun c => if '"' = c then "&quot;".toList else [c]

theorem quoted_quote (rest : Text) : quoted ('"' :: rest) = "&quot;".toList ++ quoted rest := rfl

theorem quoted_cons {c : Char} (plain : c ≠ '"') (rest : Text) :
    quoted (c :: rest) = c :: quoted rest := by
  rw [quoted, List.flatMap_cons, if_neg (Ne.symm plain)]
  rfl

/-- Quotes do not stand in references. -/
theorem quoted_append {word : Text} (proper : ∀ c ∈ word, isReferenceChar c = true) (rest : Text) :
    quoted (word ++ rest) = word ++ quoted rest := by
  induction word with
  | nil => rfl
  | cons c word induction =>
    rw [List.forall_mem_cons] at proper
    have plain : c ≠ '"' := by
      rintro rfl
      exact absurd proper.1 (by decide)
    rw [List.cons_append, quoted_cons plain, induction proper.2, List.cons_append]

/-- A character other than an ampersand at the start of what is written begins the value too. -/
theorem eq_of_quoted_eq_cons {value : Text} {c : Char} {rest : Text} (noAmpersand : c ≠ '&')
    (written : quoted value = c :: rest) : ∃ more, value = c :: more ∧ quoted more = rest := by
  cases value with
  | nil => cases written
  | cons d more =>
    by_cases quote : d = '"'
    · rw [quote] at written
      exact absurd (List.cons.inj written).1.symm noAmpersand
    · rw [quoted_cons quote] at written
      obtain ⟨rfl, rest⟩ := List.cons.inj written
      exact ⟨more, rfl, rest⟩

/-- The word of a reference and the semicolon after it come from the value. -/
theorem eq_of_quoted_eq_append {value word after : Text}
    (proper : ∀ c ∈ word, isReferenceChar c = true)
    (written : quoted value = word ++ ';' :: after) :
    ∃ more, value = word ++ ';' :: more := by
  induction word generalizing value with
  | nil =>
    obtain ⟨more, rfl, -⟩ := eq_of_quoted_eq_cons (by decide) written
    exact ⟨more, rfl⟩
  | cons c word induction =>
    rw [List.forall_mem_cons] at proper
    have noAmpersand : c ≠ '&' := by
      rintro rfl
      exact absurd proper.1 (by decide)
    obtain ⟨rest, rfl, later⟩ := eq_of_quoted_eq_cons noAmpersand written
    obtain ⟨more, rfl⟩ := induction proper.2 later
    exact ⟨more, rfl⟩

/-- Writing quotes as references makes no new reference out of other characters. -/
theorem reference?_cons_quoted {c : Char} {rest : Text}
    (plain : dictionary.reference? (c :: rest) = none) :
    dictionary.reference? (c :: quoted rest) = none := by
  by_contra found
  obtain ⟨⟨length, meaning⟩, recognised⟩ := Option.ne_none_iff_exists'.mp found
  obtain ⟨word, after, shape, proper, named, -⟩ := eq_of_reference? recognised
  obtain ⟨rfl, written⟩ := List.cons.inj shape
  obtain ⟨more, rfl⟩ := eq_of_quoted_eq_append proper written
  rw [← List.cons_append, reference?_append proper, named] at plain
  cases plain

/-- What is written between quotes denotes the value with its references resolved. -/
theorem denoted_quoted : (value : Text) →
    denoted dictionary.reference? (quoted value) = denoted dictionary.reference? value
  | [] => rfl
  | c :: rest => by
    by_cases quote : c = '"'
    · have written : dictionary.reference? ("&quot;".toList ++ quoted rest) =
          some ("&quot;".toList.length, ['"']) := by
        have proper : ∀ c ∈ "quot".toList, isReferenceChar c = true :=
          List.all_eq_true.mp (by decide)
        have word := @reference?_append dictionary _ proper (quoted rest)
        rw [dictionary.names_quote] at word
        exact word
      have plain : dictionary.reference? ('"' :: rest) = none := rfl
      rw [quote, quoted_quote, denoted_form (by decide) written, denoted_char plain,
        denoted_quoted rest]
      rfl
    · cases found : dictionary.reference? (c :: rest) with
      | none =>
        rw [quoted_cons quote, denoted_char found, denoted_char (reference?_cons_quoted found),
          denoted_quoted rest]
      | some form =>
        obtain ⟨word, after, shape, proper, named, length⟩ := eq_of_reference? found
        have shorter : after.length < rest.length + 1 := by
          rw [← List.length_cons, shape]
          simp only [List.length_append, List.length_cons]
          omega
        have resolved (more : Text) : denoted dictionary.reference? ('&' :: word ++ ';' :: more) =
            form.2 ++ denoted dictionary.reference? more := by
          have whole : '&' :: word ++ ';' :: more = ('&' :: word ++ [';']) ++ more := by simp
          rw [whole]
          apply denoted_form (by simp)
          rw [← whole, reference?_append proper, named]
          simp
        have written : quoted ('&' :: word ++ ';' :: after) =
            '&' :: word ++ ';' :: quoted after := by
          rw [List.cons_append, quoted_cons (by decide), quoted_append proper,
            quoted_cons (by decide), List.cons_append]
        rw [shape, written, resolved, resolved, denoted_quoted after]
termination_by value => value.length

end Dictionary

/-! ## Attributes -/

namespace AttributeValue

/-- How an attribute is written whose value is neither empty nor an integer. -/
theorem ofAttribute_eq_quoted (element name value : Text)
    (ordinary : Text.lower name ≠ Property.styleAttribute) (nonempty : value ≠ [])
    (judged : Spelling.isInteger value = .ok false) :
    Property.ofAttribute element name value =
      .ok (AttributeName.toJsx element name ++
        ('=' :: '"' :: Dictionary.quoted value ++ ['"'])) := by
  have same : Text.replace ['"'] "&quot;".toList value = Dictionary.quoted value :=
    Text.replace_char ..
  have shown : (!value.isEmpty) = true := by simpa using nonempty
  rw [Property.ofAttribute, if_neg ordinary, Property.valuePart, judged, ← same]
  change Except.bind (if (!value.isEmpty) = true then _ else _) _ = _
  rw [if_pos shown]
  rfl

theorem quote_not_mem_quoted (value : Text) : '"' ∉ Dictionary.quoted value := by
  have absent := Structure.quote_not_mem_replace value
  rwa [Text.replace_char] at absent

/--
An attribute with a value that is no integer is written as its name and the
value between quotes, unless the value cannot be judged.  What stands between
the quotes denotes the value with its references resolved, so it denotes the
value itself exactly if no reference occurs in the value.
-/
theorem ofAttribute_denotes_iff (dictionary : Dictionary) (element name value : Text)
    (ordinary : Text.lower name ≠ Property.styleAttribute) (nonempty : value ≠ [])
    (other : Spelling.isInteger value ≠ .ok true) :
    (∃ fault, Spelling.isInteger value = .error fault ∧
      Property.ofAttribute element name value = .error fault) ∨
    ∃ body,
      Property.ofAttribute element name value =
        .ok (AttributeName.toJsx element name ++ ('=' :: '"' :: body ++ ['"'])) ∧
      '"' ∉ body ∧
      denoted dictionary.reference? body = denoted dictionary.reference? value ∧
      (denoted dictionary.reference? body = value ↔ ¬ dictionary.OccursIn value) := by
  cases judged : Spelling.isInteger value with
  | error fault =>
    refine .inl ⟨fault, rfl, ?_⟩
    rw [Property.ofAttribute, if_neg ordinary, Property.valuePart, judged]
    rfl
  | ok integer =>
    cases integer with
    | true => exact absurd judged other
    | false =>
      refine .inr ⟨_, ofAttribute_eq_quoted element name value ordinary nonempty judged,
        quote_not_mem_quoted value, Dictionary.denoted_quoted value, ?_⟩
      rw [Dictionary.denoted_quoted, Dictionary.denoted_eq_self_iff_not_occursIn]

/-- A value with quotes and with ampersands that begin no reference. -/
def looseAmpersands : Text := "\"a&b\" &lt &; &nosuch; &#; &#x;".toList

theorem ofAttribute_denotes_iff_looseAmpersands :
    ∃ body, Property.ofAttribute "input".toList "value".toList looseAmpersands =
        .ok ("defaultValue".toList ++ ('=' :: '"' :: body ++ ['"'])) ∧
      '"' ∉ body ∧ denoted Dictionary.markup.reference? body = looseAmpersands := by
  have judged : Spelling.isInteger looseAmpersands = .ok false := rfl
  have named : Text.lower "value".toList ≠ Property.styleAttribute ∧
      AttributeName.toJsx "input".toList "value".toList = "defaultValue".toList ∧
      denoted Dictionary.markup.reference? looseAmpersands = looseAmpersands := by
    decide +kernel
  obtain ⟨ordinary, spelled, read⟩ := named
  have other : Spelling.isInteger looseAmpersands ≠ .ok true := by
    rw [judged]
    exact nofun
  rcases ofAttribute_denotes_iff Dictionary.markup "input".toList "value".toList looseAmpersands
    ordinary nofun other with ⟨fault, unjudged, -⟩ | ⟨body, written, plain, -, exactly⟩
  · rw [judged] at unjudged
    cases unjudged
  · rw [spelled] at written
    exact ⟨body, written, plain,
      exactly.mpr ((Dictionary.denoted_eq_self_iff_not_occursIn _).mp read)⟩

/-- A value that is a reference to a bracket is written so that it denotes the bracket. -/
theorem reference_in_value_resolved :
    (Conversion.convert {} "<input value=\"&amp;lt;\">".toList).toOption.map Canvas.output =
        some "<input defaultValue=\"&lt;\" />\n".toList ∧
      ¬ ∃ body, Property.ofAttribute "input".toList "value".toList "&lt;".toList =
          .ok (AttributeName.toJsx "input".toList "value".toList ++ ('=' :: '"' :: body ++ ['"'])) ∧
        '"' ∉ body ∧ denoted Dictionary.markup.reference? body = "&lt;".toList := by
  have evaluated : (Conversion.convert {} "<input value=\"&amp;lt;\">".toList).toOption.map
        Canvas.output = some "<input defaultValue=\"&lt;\" />\n".toList ∧
      Text.lower "value".toList ≠ Property.styleAttribute ∧
      denoted Dictionary.markup.reference? "&lt;".toList = ['<'] := by
    decide +kernel
  obtain ⟨converted, ordinary, read⟩ := evaluated
  refine ⟨converted, ?_⟩
  rintro ⟨body, written, -, denotes⟩
  rw [ofAttribute_eq_quoted "input".toList "value".toList "&lt;".toList ordinary nofun rfl]
    at written
  have inside := List.append_cancel_left (Except.ok.inj written)
  obtain rfl : Dictionary.quoted "&lt;".toList = body :=
    List.append_cancel_right (List.cons.inj (List.cons.inj inside).2).2
  rw [Dictionary.denoted_quoted, read] at denotes
  cases denotes

end AttributeValue

end HtmlJsx
