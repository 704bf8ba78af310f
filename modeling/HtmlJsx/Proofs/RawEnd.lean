import HtmlJsx.Proofs.LetterCase
import HtmlJsx.Proofs.ScriptBlocks
import HtmlJsx.Proofs.Serialization

/-!
# Where raw contents end

In the mode of a raw element, everything is characters up to an end tag with
the name of the element.  The search for that end tag takes relatives of ASCII
letters for these letters, but what it finds is an end tag only if its name is
written in ASCII letters; otherwise the search goes on behind it.  So raw
contents end at the first end tag of the element, and no end tag reaches over
an opening bracket.
-/

namespace HtmlJsx.Lexer

/-- An end tag of an element: its name in any case, with blanks around it. -/
def IsEndTag (name tag : Text) : Prop :=
  ∃ blanks spelling more : Text, blanks.isBlank = true ∧ more.isBlank = true ∧
    spelling.map Char.toLower = name ∧ tag = '<' :: '/' :: (blanks ++ (spelling ++ (more ++ ['>'])))

/-- No end tag of an element stands in a text. -/
def Unended (name text : Text) : Prop :=
  ∀ tag, IsEndTag name tag → ¬ tag <:+: text

/-! ## End tags and brackets -/

theorem toLower_eq_self {c : Char} (cased : ¬ c.isUpper = true) : c.toLower = c :=
  dif_neg fun bounds => cased (decide_eq_true bounds)

theorem sameLetter_toLower (c : Char) : Text.sameLetter c.toLower c = true := by
  by_cases upper : c.isUpper = true
  · simp [Text.sameLetter, upper]
  · simp [Text.sameLetter, toLower_eq_self upper]

theorem isAlpha_of_toLower {c : Char} (lower : c.toLower.isLower = true) : c.isAlpha = true := by
  by_cases upper : c.isUpper = true
  · exact Bool.or_eq_true_iff.mpr (.inl upper)
  · rw [toLower_eq_self upper] at lower
    exact Serialization.isAlpha_of_isLower lower

theorem spells_map_toLower (spelling : Text) : Text.Spells (spelling.map Char.toLower) spelling := by
  induction spelling with
  | nil => rfl
  | cons c rest induction => exact Text.Spells.cons_iff.mpr ⟨sameLetter_toLower c, induction⟩

/-- The name of a raw element: some small letters. -/
structure IsRawName (name : Text) : Prop where
  nonempty : name ≠ []
  letters : ∀ c ∈ name, c.isLower = true

theorem solid_of_isAlpha {c : Char} (letter : c.isAlpha = true) :
    isBlank c = false ∧ c ≠ '<' ∧ c ≠ '>' := by
  have each : ∀ code < 128, (Char.ofNat code).isAlpha = true → isBlank (Char.ofNat code) = false ∧
      Char.ofNat code ≠ '<' ∧ Char.ofNat code ≠ '>' := by
    decide +kernel
  have holds := each c.toNat (Serialization.toNat_of_isAlpha letter)
  rw [Char.ofNat_toNat] at holds
  exact holds letter

/-- Neither letters nor what is taken for them is a blank or a bracket. -/
theorem solid_of_sameLetter {letter c : Char} (lower : letter.isLower = true)
    (same : Text.sameLetter letter c = true) : isBlank c = false ∧ c ≠ '<' ∧ c ≠ '>' := by
  simp only [Text.sameLetter, Bool.or_eq_true, Bool.and_eq_true, beq_iff_eq] at same
  rcases same with (((rfl | ⟨upper, -⟩) | ⟨-, rfl⟩) | ⟨-, rfl | rfl⟩) | ⟨-, kelvin⟩
  · exact solid_of_isAlpha (Serialization.isAlpha_of_isLower lower)
  · exact solid_of_isAlpha (Bool.or_eq_true_iff.mpr (.inl upper))
  · decide
  · decide
  · decide
  · obtain rfl : c = Char.ofNat 0x212A := by rw [← kelvin, Char.ofNat_toNat]
    decide

section Names

variable {name : Text} (raw : IsRawName name)

include raw

theorem solid_of_spells {spelling : Text} (spells : Text.Spells name spelling) :
    ∀ c ∈ spelling, isBlank c = false ∧ c ≠ '<' ∧ c ≠ '>' := by
  intro c member
  obtain ⟨letter, inName, same⟩ := spells.exists_letter member
  exact solid_of_sameLetter (raw.letters letter inName) same

theorem ne_nil_of_spells {spelling : Text} (spells : Text.Spells name spelling) :
    spelling ≠ [] := by
  obtain ⟨first, more, rfl⟩ := List.exists_cons_of_ne_nil raw.nonempty
  obtain ⟨c, others, rfl, -⟩ := spells.eq_cons
  exact List.cons_ne_nil c others

/-- A name in any case is one that can be read in an end tag. -/
theorem isPlainName_of_map_toLower {spelling : Text} (same : spelling.map Char.toLower = name) :
    Serialization.isPlainName spelling = true := by
  have letters : ∀ c ∈ spelling, c.isAlpha = true := by
    intro c member
    apply isAlpha_of_toLower
    apply raw.letters
    rw [← same]
    exact List.mem_map_of_mem member
  cases spelling with
  | nil => exact absurd same.symm raw.nonempty
  | cons first more =>
    rw [List.forall_mem_cons] at letters
    rw [Serialization.isPlainName, Bool.and_eq_true, List.all_eq_true]
    refine ⟨letters.1, fun c member => ?_⟩
    have alphanumeric : c.isAlphanum = true := Bool.or_eq_true_iff.mpr (.inl (letters.2 c member))
    rw [isEndNameChar, alphanumeric]
    rfl

/-- The search finds what is taken for the name, between blanks and before the bracket. -/
theorem beginsRawEnd_iff {text : Text} :
    beginsRawEnd name text = true ↔
      ∃ blanks spelling more rest : Text, blanks.isBlank = true ∧ more.isBlank = true ∧
        Text.Spells name spelling ∧
        text = '<' :: '/' :: (blanks ++ (spelling ++ (more ++ '>' :: rest))) := by
  constructor
  · intro begins
    rw [beginsRawEnd.eq_def] at begins
    split at begins
    · next source =>
      split at begins
      · next after found =>
        obtain ⟨rest, bracket⟩ := Option.isSome_iff_exists.mp begins
        obtain ⟨spelling, spells, shape⟩ := Text.afterWord?_eq_some_iff.mp found
        rw [afterBracket?] at bracket
        split at bracket
        · next others ended =>
          obtain rfl := Option.some.inj bracket
          refine ⟨source.takeWhile isBlank, spelling, after.takeWhile isBlank, others,
            List.all_takeWhile, List.all_takeWhile, spells, ?_⟩
          rw [← ended, List.takeWhile_append_dropWhile, ← shape, List.takeWhile_append_dropWhile]
        · cases bracket
      · cases begins
    · cases begins
  · rintro ⟨blanks, spelling, more, rest, blank, blankMore, spells, rfl⟩
    have solid := solid_of_spells raw spells
    obtain ⟨first, others, rfl⟩ := List.exists_cons_of_ne_nil (ne_nil_of_spells raw spells)
    have found : (blanks ++ (first :: others ++ (more ++ '>' :: rest))).dropWhile isBlank =
        first :: others ++ (more ++ '>' :: rest) :=
      Serialization.dropWhile_append_stop (List.all_eq_true.mp blank)
        (solid first List.mem_cons_self).1 _
    have ended : afterBracket? (more ++ '>' :: rest) = some rest := by
      rw [afterBracket?, Serialization.dropWhile_append_stop (List.all_eq_true.mp blankMore)
        (by decide)]
      rfl
    simp only [beginsRawEnd, found, spells.afterWord?, ended, Option.isSome_some]

/--
What the search finds ends the raw contents if it is an end tag of the element,
and otherwise it is characters like those before it.
-/
theorem endTag?_found {blanks spelling more : Text} (blank : blanks.isBlank = true)
    (blankMore : more.isBlank = true) (spells : Text.Spells name spelling) (rest : Text) :
    endTag? (some name) (blanks ++ (spelling ++ (more ++ '>' :: rest))) =
      if spelling.map Char.toLower = name then some ⟨[.stop name], none, rest⟩
      else some ⟨[.text ('<' :: '/' :: (blanks ++ (spelling ++ (more ++ ['>']))))], some name, rest⟩ := by
  have solid := solid_of_spells raw spells
  have bracket : isBlank '>' = false := by decide
  have noBracket {text : Text} (allBlank : text.isBlank = true) : '>' ∉ text := by
    intro member
    rw [List.all_eq_true.mp allBlank '>' member] at bracket
    cases bracket
  have within : '>' ∉ spelling := fun member => (solid '>' member).2.2 rfl
  have absent : '>' ∉ blanks ++ (spelling ++ more) := by
    simp [noBracket blank, within, noBracket blankMore]
  have cut : Text.cut '>' (blanks ++ (spelling ++ (more ++ '>' :: rest))) =
      some (blanks ++ (spelling ++ more), rest) := by
    have found := Serialization.cut_append absent rest
    rwa [List.append_assoc, List.append_assoc] at found
  rw [endTag?, cut, Serialization.plainEndName?_eq blank blankMore (ne_nil_of_spells raw spells)
    (fun c member => (solid c member).1) within]
  cases plain : Serialization.isPlainName spelling with
  | false =>
    have other : spelling.map Char.toLower ≠ name := by
      intro same
      rw [isPlainName_of_map_toLower raw same] at plain
      cases plain
    rw [if_neg other]
    simp
  | true =>
    have lowered : Text.lower spelling = spelling.map Char.toLower :=
      Text.lower_of_small (Serialization.small_of_isPlainName plain)
    change (if ((some name).isSome && some name != some (Text.lower spelling)) = true then _
      else _) = _
    rw [lowered]
    by_cases same : spelling.map Char.toLower = name
    · rw [if_pos same, same]
      simp
    · rw [if_neg same, if_pos (by simpa using Ne.symm same)]
      simp

/-! ## Reading in the mode of the element -/

omit raw in
/-- The search starts at opening brackets only. -/
theorem splitAt?_append {front : Text} (absent : '<' ∉ front) (rest : Text) :
    splitAt? (beginsRawEnd name) (front ++ rest) =
      (splitAt? (beginsRawEnd name) rest).map fun parts => (front ++ parts.1, parts.2) := by
  induction front with
  | nil => simp
  | cons c front induction =>
    rw [List.mem_cons, not_or] at absent
    have apart : beginsRawEnd name (c :: (front ++ rest)) = false := by
      rw [beginsRawEnd.eq_def]
      split
      · next same => exact absurd (List.cons.inj same).1.symm absent.1
      · rfl
    rw [List.cons_append, splitAt?, if_neg (by simp [apart]), induction absent.2, Option.map_map]
    rfl

end Names

/-- The effect of raw contents on a builder, with the mode and the text that are left. -/
def feedRaw (name : Text) (builder : Builder) (text : Text) :
    Except MarkupFault (Builder × Mode × Text) :=
  (walk false (some name) text).map (effect builder)

/-- Whether the search for an end tag succeeds. -/
def isFound (name text : Text) : Bool :=
  (splitAt? (beginsRawEnd name) text).isSome

theorem take_text_append (builder : Builder) (left right : Text) :
    (builder.take (.text left)).take (.text right) = builder.take (.text (left ++ right)) := by
  simp [Builder.take]

theorem take_text_nil (builder : Builder) : builder.take (.text []) = builder := by
  simp [Builder.take]

theorem feedRaw_unmarked {name front : Text} (absent : '<' ∉ front) {rest : Text}
    (found : isFound name rest = true) (builder : Builder) :
    feedRaw name builder (front ++ rest) = feedRaw name (builder.take (.text front)) rest := by
  obtain ⟨⟨characters, after⟩, split⟩ := Option.isSome_iff_exists.mp found
  induction front generalizing builder with
  | nil => rw [take_text_nil, List.nil_append]
  | cons c front induction =>
    have longer : leading? (some name) (c :: (front ++ rest)) =
        some (c :: (front ++ characters), after) := by
      change splitAt? (beginsRawEnd name) (c :: front ++ rest) = _
      rw [splitAt?_append absent, split]
      rfl
    rw [List.mem_cons, not_or] at absent
    have shorter : leading? (some name) (front ++ rest) = some (front ++ characters, after) := by
      rw [leading?, splitAt?_append absent.2, split]
      rfl
    have walked := walk_char shorter longer builder
    refine walked.trans ((induction absent.2 _).trans ?_)
    rw [take_text_append]
    rfl

section Reading

variable {name : Text} (raw : IsRawName name)

include raw

theorem IsEndTag.isFound {tag : Text} (ends : IsEndTag name tag) (front rest : Text) :
    isFound name (front ++ (tag ++ rest)) = true := by
  obtain ⟨blanks, spelling, more, blank, blankMore, rfl, rfl⟩ := ends
  have begins : beginsRawEnd (spelling.map Char.toLower)
      ('<' :: '/' :: (blanks ++ (spelling ++ (more ++ ['>']))) ++ rest) = true := by
    refine (beginsRawEnd_iff raw).mpr ⟨blanks, spelling, more, rest, blank, blankMore,
      spells_map_toLower spelling, ?_⟩
    simp
  induction front with
  | nil =>
    rw [List.nil_append, Lexer.isFound, List.cons_append, splitAt?, ← List.cons_append, begins]
    rfl
  | cons c front induction =>
    rw [List.cons_append, Lexer.isFound, splitAt?]
    split
    · rfl
    · rw [Option.isSome_map]
      exact induction

/-- The walk stops at what the search finds, and goes on in the mode that this leaves. -/
theorem feedRaw_found {blanks spelling more : Text} (blank : blanks.isBlank = true)
    (blankMore : more.isBlank = true) (spells : Text.Spells name spelling) (rest : Text)
    (builder : Builder) :
    Lexer.feedRaw name builder ('<' :: '/' :: (blanks ++ (spelling ++ (more ++ '>' :: rest)))) =
      if spelling.map Char.toLower = name then feed (builder.take (.stop name)) rest
      else Lexer.feedRaw name
        (builder.take (.text ('<' :: '/' :: (blanks ++ (spelling ++ (more ++ ['>'])))))) rest := by
  have begins := (beginsRawEnd_iff raw).mpr
    ⟨blanks, spelling, more, rest, blank, blankMore, spells, rfl⟩
  have split : leading? (some name)
      ('<' :: '/' :: (blanks ++ (spelling ++ (more ++ '>' :: rest)))) =
        some ([], '<' :: '/' :: (blanks ++ (spelling ++ (more ++ '>' :: rest)))) := by
    rw [leading?, splitAt?, begins]
    rfl
  have read := endTag?_found raw blank blankMore spells rest
  have stepped {reading : Reading}
      (ended : endTag? (some name) (blanks ++ (spelling ++ (more ++ '>' :: rest))) = some reading) :
      step false (some name) '<' ('/' :: (blanks ++ (spelling ++ (more ++ '>' :: rest)))) =
        .ok (.go reading) := by
    rw [step, if_pos rfl, bracketStep]
    change Except.map _ (.ok (endTag? (some name) _)) = _
    rw [ended]
    rfl
  split at read
  · next same =>
    rw [if_pos same]
    exact walk_step split (stepped read) builder
  · next other =>
    rw [if_neg other]
    exact walk_step split (stepped read) builder

/-- Raw contents end at an end tag of their element. -/
theorem IsEndTag.feedRaw {tag : Text} (ends : IsEndTag name tag) (rest : Text)
    (builder : Builder) :
    feedRaw name builder (tag ++ rest) = feed (builder.take (.stop name)) rest := by
  obtain ⟨blanks, spelling, more, blank, blankMore, same, rfl⟩ := ends
  have spells : Text.Spells name spelling := by
    rw [← same]
    exact spells_map_toLower spelling
  have shape : '<' :: '/' :: (blanks ++ (spelling ++ (more ++ ['>']))) ++ rest =
      '<' :: '/' :: (blanks ++ (spelling ++ (more ++ '>' :: rest))) := by
    simp
  rw [shape, feedRaw_found raw blank blankMore spells, if_pos same]

omit raw in
theorem Unended.tail {c : Char} {text : Text} (unended : Unended name (c :: text)) :
    Unended name text := by
  intro tag ends within
  exact unended tag ends (within.trans (List.suffix_cons c text).isInfix)

theorem bracket_not_mem {blanks spelling more : Text} (blank : blanks.isBlank = true)
    (blankMore : more.isBlank = true) (spells : Text.Spells name spelling) :
    '<' ∉ '/' :: (blanks ++ (spelling ++ (more ++ ['>']))) := by
  have solid : isBlank '<' = false := by decide
  have noBracket {text : Text} (allBlank : text.isBlank = true) : '<' ∉ text := by
    intro member
    rw [List.all_eq_true.mp allBlank '<' member] at solid
    cases solid
  have within : '<' ∉ spelling := fun member => (solid_of_spells raw spells '<' member).2.1 rfl
  simp [noBracket blank, noBracket blankMore, within]

/-- Before an end tag that is still to come, a character where none begins is a character. -/
theorem feedRaw_char {c : Char} {text : Text}
    (unended : ∀ tag rest, IsEndTag name tag → c :: text ≠ tag ++ rest)
    (found : isFound name text = true) (builder : Builder) :
    Lexer.feedRaw name builder (c :: text) = Lexer.feedRaw name (builder.take (.text [c])) text := by
  cases begins : beginsRawEnd name (c :: text) with
  | false =>
    obtain ⟨⟨characters, after⟩, split⟩ := Option.isSome_iff_exists.mp found
    have shorter : leading? (some name) text = some (characters, after) := split
    have longer : leading? (some name) (c :: text) = some (c :: characters, after) := by
      rw [leading?, splitAt?, begins, split]
      rfl
    exact walk_char shorter longer builder
  | true =>
    -- The search has found something that is no end tag; it goes on behind that.
    obtain ⟨blanks, spelling, more, rest, blank, blankMore, spells, shape⟩ :=
      (beginsRawEnd_iff raw).mp begins
    obtain ⟨rfl, rfl⟩ := List.cons.inj shape
    have other : spelling.map Char.toLower ≠ name := by
      intro same
      apply unended ('<' :: '/' :: (blanks ++ (spelling ++ (more ++ ['>'])))) rest
      · exact ⟨blanks, spelling, more, blank, blankMore, same, rfl⟩
      · simp
    have absent := bracket_not_mem raw blank blankMore spells
    have joined : '/' :: (blanks ++ (spelling ++ (more ++ '>' :: rest))) =
        '/' :: (blanks ++ (spelling ++ (more ++ ['>']))) ++ rest := by
      simp
    have foundRest : isFound name rest = true := by
      rw [joined, Lexer.isFound, splitAt?_append absent, Option.isSome_map] at found
      exact found
    rw [feedRaw_found raw blank blankMore spells, if_neg other, joined,
      feedRaw_unmarked absent foundRest, take_text_append]
    rfl

/-! ## The first end tag -/

theorem IsEndTag.eq_cons {tag : Text} (ends : IsEndTag name tag) :
    ∃ inside, tag = '<' :: inside ∧ '<' ∉ inside := by
  obtain ⟨blanks, spelling, more, blank, blankMore, same, rfl⟩ := ends
  refine ⟨_, rfl, bracket_not_mem raw blank blankMore ?_⟩
  rw [← same]
  exact spells_map_toLower spelling

/-- An end tag has no bracket but at its start, so it does not reach over the next bracket. -/
theorem IsEndTag.prefix_of_append {tag : Text} (ends : IsEndTag name tag) {c : Char}
    {text rest after : Text} (split : c :: text ++ '<' :: rest = tag ++ after) :
    tag <+: c :: text := by
  obtain ⟨inside, rfl, absent⟩ := ends.eq_cons raw
  rcases List.append_eq_append_iff.mp split with ⟨excess, longer, reaches⟩ | ⟨kept, shorter, -⟩
  · cases excess with
    | nil =>
      rw [List.append_nil] at longer
      exact ⟨[], (List.append_nil _).trans longer⟩
    | cons d excess =>
      obtain ⟨-, rfl⟩ := List.cons.inj longer
      obtain ⟨rfl, -⟩ := List.cons.inj reaches
      simp at absent
  · exact ⟨kept, shorter.symm⟩

/-- The first end tag in a text. -/
theorem exists_first_endTag {text : Text} (ended : ¬ Unended name text) :
    ∃ before tag after, Unended name before ∧ IsEndTag name tag ∧
      text = before ++ (tag ++ after) := by
  have unendedNil : Unended name [] := by
    intro tag ends within
    obtain ⟨inside, rfl, -⟩ := ends.eq_cons raw
    cases List.infix_nil.mp within
  induction text with
  | nil => exact absurd unendedNil ended
  | cons c rest induction =>
    by_cases begins : ∃ tag after, IsEndTag name tag ∧ c :: rest = tag ++ after
    · obtain ⟨tag, after, ends, split⟩ := begins
      exact ⟨[], tag, after, unendedNil, ends, split⟩
    · have later : ¬ Unended name rest := by
        intro unended
        apply ended
        intro tag ends within
        rcases List.infix_cons_iff.mp within with ⟨after, atStart⟩ | inRest
        · exact begins ⟨tag, after, ends, atStart.symm⟩
        · exact unended tag ends inRest
      obtain ⟨before, tag, after, unended, ends, rfl⟩ := induction later
      refine ⟨c :: before, tag, after, ?_, ends, rfl⟩
      intro other otherEnds within
      rcases List.infix_cons_iff.mp within with ⟨more, atStart⟩ | inBefore
      · apply begins
        have joined : other ++ (more ++ (tag ++ after)) = c :: (before ++ (tag ++ after)) := by
          rw [← List.append_assoc, atStart]
          rfl
        exact ⟨other, more ++ (tag ++ after), otherEnds, joined.symm⟩
      · exact unended other otherEnds inBefore

/-- Raw contents are the characters before the first end tag. -/
theorem feedRaw_unended {text tag : Text} (unended : Unended name text) (ends : IsEndTag name tag)
    (rest : Text) (builder : Builder) :
    Lexer.feedRaw name builder (text ++ (tag ++ rest)) =
      feed ((builder.take (.text text)).take (.stop name)) rest := by
  induction text generalizing builder with
  | nil => rw [take_text_nil, List.nil_append, ends.feedRaw raw]
  | cons c text induction =>
    have apart : ∀ other after, IsEndTag name other →
        c :: (text ++ (tag ++ rest)) ≠ other ++ after := by
      intro other after otherEnds split
      obtain ⟨inside, shape, -⟩ := ends.eq_cons raw
      rw [shape] at split
      exact unended other otherEnds (otherEnds.prefix_of_append raw split).isInfix
    rw [List.cons_append, feedRaw_char raw apart (ends.isFound raw text rest),
      induction unended.tail, take_text_append]
    rfl

end Reading

end HtmlJsx.Lexer
