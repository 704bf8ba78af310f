import HtmlJsx.Proofs.FieldName
import HtmlJsx.Proofs.Layout
import HtmlJsx.Proofs.LetterCase

/-!
# Styles as ordered maps

A style is an ordered map from properties to values.  The declarations of a
style attribute are set one after the other, which comes to the same as parsing
the parts of the attribute on their own and updating the first map with the
second one: a property that is known keeps its place and takes the later value,
and a new one is put at the end.

What is stored is in a settled form: properties and values are trimmed, the
properties are in lower case, and no character is left that would end them
early.  So a style can be written as an attribute again and is parsed as itself.
-/

namespace HtmlJsx

namespace Text

/-! ## Trimmed texts -/

theorem trim_eq_self_iff {text : Text} :
    trim text = text ↔
      (∀ c ∈ text.head?, HtmlJsx.isBlank c = false) ∧
        ∀ c ∈ text.getLast?, HtmlJsx.isBlank c = false := by
  constructor
  · intro trimmed
    have first := solid_of_head?_trim text
    have last := solid_of_getLast?_trim text
    rw [trimmed] at first last
    exact ⟨first, last⟩
  · rintro ⟨first, last⟩
    cases text with
    | nil => rfl
    | cons c rest =>
      have kept := trim_eq isBlank_nil isBlank_nil first last (List.cons_ne_nil c rest)
      rwa [List.nil_append, List.append_nil] at kept

theorem trim_trim (text : Text) : trim (trim text) = trim text :=
  trim_eq_self_iff.mpr ⟨solid_of_head?_trim text, solid_of_getLast?_trim text⟩

theorem mem_of_mem_trim {text : Text} {c : Char} (member : c ∈ trim text) : c ∈ text := by
  obtain ⟨before, after, -, -, whole⟩ := exists_eq_append_trim text
  rw [whole]
  exact List.mem_append_left after (List.mem_append_right before member)

/-- Lowering the case of a trimmed text leaves it trimmed. -/
theorem trim_lower {text : Text} (trimmed : trim text = text) :
    trim (lower text) = lower text := by
  obtain ⟨first, last⟩ := trim_eq_self_iff.mp trimmed
  exact trim_eq_self_iff.mpr
    ⟨solid_of_head?_lowerFrom first [], solid_of_getLast?_lowerFrom last []⟩

end Text

namespace Style

open FieldName (properties properties_set nodup_properties_parse)

/-! ## Ordered maps -/

/-- A style with the declarations of another one set in their order. -/
def update (earlier later : Style) : Style :=
  later.foldl (fun style declaration => style.set declaration.1 declaration.2) earlier

/-- The declarations of a style, each with the value that another one gives to its property. -/
def revalued (earlier later : Style) : Style :=
  earlier.map fun declaration =>
    (declaration.1, (later.lookup declaration.1).getD declaration.2)

/-- The declarations of a style whose properties are not in a list. -/
def without (style : Style) (known : List Text) : Style :=
  style.filter fun declaration => !known.contains declaration.1

theorem without_eq_filter (style : Style) (known : List Text) :
    without style known = style.filter (fun declaration => declaration.1 ∉ known) := by
  simp [without]

/-- Two styles put together at once: old properties in their places, then the new ones. -/
def merged (earlier later : Style) : Style :=
  revalued earlier later ++ without later (properties earlier)

theorem mem_properties_cons_iff {name property : Text} (other : name ≠ property) (old : Text)
    (rest : Style) : property ∈ properties ((name, old) :: rest) ↔ property ∈ properties rest := by
  simp [properties, Ne.symm other]

theorem lookup_cons_of_ne {name first : Text} (other : name ≠ first) (value : Text)
    (rest : Style) : List.lookup name ((first, value) :: rest) = List.lookup name rest := by
  rw [List.lookup_cons, beq_eq_false_iff_ne.mpr other]

theorem lookup_set (style : Style) (property value name : Text) :
    (style.set property value).lookup name =
      if name = property then some value else style.lookup name := by
  induction style with
  | nil =>
    by_cases same : name = property
    · rw [set, if_pos same, same, List.lookup_cons_self]
    · rw [set, if_neg same, lookup_cons_of_ne same]
  | cons declaration rest induction =>
    obtain ⟨first, old⟩ := declaration
    rw [set]
    by_cases found : first = property
    · rw [if_pos found, found]
      by_cases same : name = property
      · rw [if_pos same, same, List.lookup_cons_self]
      · rw [if_neg same, lookup_cons_of_ne same, lookup_cons_of_ne same]
    · rw [if_neg found]
      by_cases same : name = first
      · rw [same, List.lookup_cons_self, List.lookup_cons_self, if_neg found]
      · rw [lookup_cons_of_ne same, lookup_cons_of_ne same, induction]

theorem set_append (left right : Style) (property value : Text) :
    set (left ++ right) property value =
      if property ∈ properties left then left.set property value ++ right
      else left ++ right.set property value := by
  induction left with
  | nil => rfl
  | cons declaration rest induction =>
    obtain ⟨name, old⟩ := declaration
    by_cases same : name = property
    · simp [set, properties, same]
    · rw [List.cons_append, set, if_neg same, induction]
      simp only [mem_properties_cons_iff same, set, if_neg same]
      split <;> rfl

theorem set_of_not_mem {style : Style} {property : Text} (absent : property ∉ properties style)
    (value : Text) : style.set property value = style ++ [(property, value)] := by
  have appended := set_append style [] property value
  rw [List.append_nil, if_neg absent] at appended
  exact appended

theorem without_set (style : Style) (known : List Text) (property value : Text) :
    without (style.set property value) known =
      if property ∈ known then without style known
      else (without style known).set property value := by
  induction style with
  | nil =>
    by_cases old : property ∈ known
    · simp [set, without, old]
    · simp [set, without, old]
  | cons declaration rest induction =>
    obtain ⟨name, old⟩ := declaration
    by_cases same : name = property
    · subst same
      by_cases old : name ∈ known
      · simp [set, without, old]
      · simp [set, without, old]
    · rw [set, if_neg same]
      by_cases kept : name ∈ known
      · simpa [without, kept] using induction
      · by_cases old : property ∈ known
        · simpa [without, kept, old] using induction
        · simpa [without, kept, old, set, same] using induction

theorem properties_revalued (earlier later : Style) :
    properties (revalued earlier later) = properties earlier := by
  simp [properties, revalued]

theorem revalued_cons (name old : Text) (rest later : Style) :
    revalued ((name, old) :: rest) later =
      (name, (later.lookup name).getD old) :: revalued rest later := rfl

/-- A value that is set later reaches the one place that its property has. -/
theorem revalued_set {earlier : Style} (distinct : (properties earlier).Nodup) (later : Style)
    (property value : Text) :
    revalued earlier (later.set property value) =
      if property ∈ properties earlier then (revalued earlier later).set property value
      else revalued earlier later := by
  induction earlier with
  | nil => rfl
  | cons declaration rest induction =>
    obtain ⟨name, old⟩ := declaration
    rw [properties, List.map_cons, List.nodup_cons] at distinct
    rw [revalued_cons, revalued_cons, lookup_set, induction distinct.2]
    by_cases same : name = property
    · subst same
      have absent : name ∉ properties rest := distinct.1
      rw [if_pos rfl, if_neg absent, if_pos (by simp [properties]), set, if_pos rfl]
      rfl
    · simp only [mem_properties_cons_iff same, if_neg same, set]
      split <;> rfl

/-- Setting a property in the later style is setting it in the whole. -/
theorem merged_set {earlier : Style} (distinct : (properties earlier).Nodup) (later : Style)
    (property value : Text) :
    merged earlier (later.set property value) = (merged earlier later).set property value := by
  rw [merged, merged, set_append, properties_revalued, revalued_set distinct, without_set]
  split <;> rfl

theorem merged_nil (style : Style) : merged style [] = style := by
  simp [merged, revalued, without]

theorem merged_add {earlier : Style} (distinct : (properties earlier).Nodup) (later : Style)
    (source : Text) : merged earlier (later.add source) = (merged earlier later).add source := by
  rw [add, add]
  split
  · rfl
  · exact merged_set distinct later _ _

theorem merged_foldl_add {earlier : Style} (distinct : (properties earlier).Nodup)
    (sources : List Text) (later : Style) :
    merged earlier (sources.foldl add later) = sources.foldl add (merged earlier later) := by
  induction sources generalizing later with
  | nil => rfl
  | cons source rest induction =>
    rw [List.foldl_cons, List.foldl_cons, induction, merged_add distinct]

theorem merged_update {earlier : Style} (distinct : (properties earlier).Nodup)
    (later more : Style) : merged earlier (update later more) = update (merged earlier later) more := by
  induction more generalizing later with
  | nil => rfl
  | cons declaration rest induction =>
    rw [update, List.foldl_cons, ← update, induction, merged_set distinct]
    rfl

/-- Declarations with new properties are put at the end as they are. -/
theorem update_of_disjoint {earlier later : Style}
    (distinct : (properties (earlier ++ later)).Nodup) :
    update earlier later = earlier ++ later := by
  induction later generalizing earlier with
  | nil => exact (List.append_nil earlier).symm
  | cons declaration rest induction =>
    have absent : declaration.1 ∉ properties earlier := by
      rw [properties, List.map_append, List.map_cons] at distinct
      intro present
      exact (List.nodup_append.mp distinct).2.2 _ present _ List.mem_cons_self rfl
    rw [List.append_cons] at distinct ⊢
    rw [update, List.foldl_cons, set_of_not_mem absent]
    exact induction distinct

theorem update_eq_merged {earlier later : Style} (distinct : (properties earlier).Nodup)
    (distinctLater : (properties later).Nodup) : update earlier later = merged earlier later := by
  have same : update [] later = later := update_of_disjoint distinctLater
  have moved := merged_update distinct [] later
  rw [same, merged_nil] at moved
  exact moved.symm

theorem parse_append (left right : Text) :
    parse (left ++ ';' :: right) = merged (parse left) (parse right) := by
  have distinct := nodup_properties_parse left
  rw [parse, Text.pieces_append, List.foldl_append, ← parse]
  have moved := merged_foldl_add distinct (Text.pieces ';' right) []
  rw [merged_nil] at moved
  exact moved.symm

/--
Parsing two styles with a semicolon between them is updating the first one with
the second one.  A property of the first one keeps its place and takes the value
that the second one gives it, if any; the properties that are new in the second
one follow in its order.
-/
theorem parse_append_eq_update (left right : Text) :
    parse (left ++ ';' :: right) = update (parse left) (parse right) ∧
      update (parse left) (parse right) =
        (parse left).map (fun declaration =>
          (declaration.1, ((parse right).lookup declaration.1).getD declaration.2)) ++
        (parse right).filter (fun declaration => declaration.1 ∉ properties (parse left)) := by
  have updated := update_eq_merged (nodup_properties_parse left) (nodup_properties_parse right)
  constructor
  · rw [updated]
    exact parse_append left right
  · rw [updated, merged, without_eq_filter]
    rfl

/-! ## The form of what is stored -/

/-- A declaration as it is stored: trimmed, in lower case, and without marks that would end it. -/
structure IsStored (declaration : Text × Text) : Prop where
  named : declaration.1 ≠ []
  trimmed : Text.trim declaration.1 = declaration.1
  lowered : Text.lower declaration.1 = declaration.1
  noColon : ':' ∉ declaration.1
  noSemicolon : ';' ∉ declaration.1
  valueTrimmed : Text.trim declaration.2 = declaration.2
  valueNoSemicolon : ';' ∉ declaration.2

/-- A declaration in the spelling of style attributes. -/
def spelled (declaration : Text × Text) : Text :=
  declaration.1 ++ ':' :: declaration.2

/-- A style in the spelling of style attributes. -/
def written (style : Style) : Text :=
  Text.join [';'] (style.map spelled)

theorem IsStored.of_declaration? {source : Text} {declaration : Text × Text}
    (single : ';' ∉ source) (found : declaration? source = some declaration) :
    IsStored declaration := by
  rw [declaration?] at found
  split at found
  · cases found
  · next name value cut =>
    dsimp only at found
    split at found
    · cases found
    · next nonempty =>
      obtain rfl := Option.some.inj found
      have whole := Text.eq_of_cut cut
      have fromSource {c : Char} (member : c ∈ name ++ ':' :: value) : c ∈ source := by
        rw [← whole] at member
        exact Text.mem_of_mem_trim member
      -- Lowering brings in neither a colon nor a semicolon.
      have fromName {c : Char} (member : c ∈ Text.lower (Text.trim name)) (low : c.toNat < 97) :
          c ∈ name :=
        Text.mem_of_mem_trim (Text.mem_of_mem_lower member low)
      constructor
      · simpa using nonempty
      · exact Text.trim_lower (Text.trim_trim name)
      · exact Text.lower_lower _
      · intro member
        exact Text.not_mem_of_cut cut (fromName member (by decide))
      · intro member
        exact single (fromSource (List.mem_append_left _ (fromName member (by decide))))
      · exact Text.trim_trim value
      · intro member
        apply single
        apply fromSource
        exact List.mem_append_right _ (List.mem_cons_of_mem _ (Text.mem_of_mem_trim member))

theorem mem_set {style : Style} {property value : Text} {declaration : Text × Text}
    (member : declaration ∈ style.set property value) :
    declaration ∈ style ∨ declaration = (property, value) := by
  induction style with
  | nil => exact .inr (List.mem_singleton.mp member)
  | cons first rest induction =>
    obtain ⟨name, old⟩ := first
    rw [set] at member
    split at member
    · next same =>
      rcases List.mem_cons.mp member with rfl | later
      · exact .inr (by rw [same])
      · exact .inl (List.mem_cons_of_mem _ later)
    · rcases List.mem_cons.mp member with rfl | later
      · exact .inl List.mem_cons_self
      · rcases induction later with old | added
        · exact .inl (List.mem_cons_of_mem _ old)
        · exact .inr added

theorem isStored_add {style : Style} (stored : ∀ declaration ∈ style, IsStored declaration)
    {source : Text} (single : ';' ∉ source) :
    ∀ declaration ∈ style.add source, IsStored declaration := by
  intro declaration member
  rw [add] at member
  split at member
  · exact stored declaration member
  · next found =>
    rcases mem_set member with old | rfl
    · exact stored declaration old
    · exact IsStored.of_declaration? single found

theorem isStored_parse (source : Text) : ∀ declaration ∈ parse source, IsStored declaration := by
  suffices kept : ∀ (sources : List Text) (style : Style), (∀ piece ∈ sources, ';' ∉ piece) →
      (∀ declaration ∈ style, IsStored declaration) →
      ∀ declaration ∈ sources.foldl add style, IsStored declaration from
    kept _ [] (fun _ member => Text.not_mem_of_mem_pieces member) nofun
  intro sources
  induction sources with
  | nil =>
    intro style _ stored
    exact stored
  | cons piece rest induction =>
    intro style single stored
    rw [List.forall_mem_cons] at single
    exact induction _ single.2 (isStored_add stored single.1)

/-! ## Parsing a written style -/

theorem IsStored.trim_spelled {declaration : Text × Text} (stored : IsStored declaration) :
    Text.trim (spelled declaration) = spelled declaration := by
  obtain ⟨first, -⟩ := Text.trim_eq_self_iff.mp stored.trimmed
  obtain ⟨-, last⟩ := Text.trim_eq_self_iff.mp stored.valueTrimmed
  rw [Text.trim_eq_self_iff, spelled]
  constructor
  · rwa [List.head?_append_of_ne_nil _ stored.named]
  · rw [List.getLast?_append, List.getLast?_cons]
    cases ending : declaration.2.getLast? with
    | none =>
      -- An empty value leaves the colon at the end.
      intro c edge
      obtain rfl := Option.some.inj edge
      decide
    | some d =>
      rw [ending] at last
      exact last

theorem IsStored.declaration?_spelled {declaration : Text × Text} (stored : IsStored declaration) :
    declaration? (spelled declaration) = some declaration := by
  rw [declaration?, stored.trim_spelled, spelled, Serialization.cut_append stored.noColon]
  dsimp only
  rw [stored.trimmed, stored.lowered, stored.valueTrimmed, if_neg]
  simpa using stored.named

theorem foldl_add_spelled {style : Style} (stored : ∀ declaration ∈ style, IsStored declaration)
    (start : Style) : (style.map spelled).foldl add start = update start style := by
  induction style generalizing start with
  | nil => rfl
  | cons declaration rest induction =>
    rw [List.forall_mem_cons] at stored
    have added : add start (spelled declaration) = start.set declaration.1 declaration.2 := by
      rw [add, stored.1.declaration?_spelled]
    rw [List.map_cons, List.foldl_cons, added]
    exact induction stored.2 _

theorem semicolon_not_mem_spelled {declaration : Text × Text} (stored : IsStored declaration) :
    ';' ∉ spelled declaration := by
  rw [spelled, List.mem_append, List.mem_cons, not_or, not_or]
  exact ⟨stored.noSemicolon, by decide, stored.valueNoSemicolon⟩

/-- Every style of stored declarations with distinct properties is parsed from its spelling. -/
theorem parse_written {style : Style} (stored : ∀ declaration ∈ style, IsStored declaration)
    (distinct : (properties style).Nodup) : parse (written style) = style := by
  by_cases empty : style = []
  · rw [empty]
    rfl
  · have single : ∀ part ∈ style.map spelled, ';' ∉ part := by
      rw [List.forall_mem_map]
      exact fun declaration member => semicolon_not_mem_spelled (stored declaration member)
    rw [parse, written, Text.pieces_join (by simpa using empty) single, foldl_add_spelled stored]
    exact update_of_disjoint distinct

/--
A style that has been parsed is parsed as itself from its spelling.  Its
properties are pairwise distinct, and its declarations are in the settled form.
-/
theorem parse_written_parse (source : Text) :
    parse (written (parse source)) = parse source ∧
      (properties (parse source)).Nodup ∧
      ∀ declaration ∈ parse source, IsStored declaration := by
  have distinct := nodup_properties_parse source
  have stored := isStored_parse source
  exact ⟨parse_written stored distinct, distinct, stored⟩

end Style

end HtmlJsx
