import HtmlJsx.Names.Attribute

/-!
# The first registration of a name counts

A table is filled from descriptors, one property after the other, and a name
that has an entry is not registered again.  Whatever the seed and the
descriptors are, a name therefore has the value of the seed, or else the first
property whose attribute it is: first in the order of the descriptors, then in
that of their properties.  Different properties may share an attribute, in one
descriptor or in several, since attribute names are in lower case.

Filling is a fold over all offers, so what one registration does to the table
settles what all of them do.
-/

namespace HtmlJsx.AttributeName

/-- The names of a table, in its order. -/
def names (table : List (Text × Text)) : List Text :=
  table.map Prod.fst

/-- What a descriptor offers for registration. -/
def offersOf (group : PropertyGroup) : List (Text × Text) :=
  group.properties.map fun property => (group.attributeName property, property)

/-- What descriptors offer for registration, in their order. -/
def offers (groups : List PropertyGroup) : List (Text × Text) :=
  groups.flatMap offersOf

/-- Register a list of offers. -/
def registerAll (table offered : List (Text × Text)) : List (Text × Text) :=
  offered.foldl (fun table offer => register table offer.1 offer.2) table

theorem buildTable_eq (seed : List (Text × Text)) (groups : List PropertyGroup) :
    buildTable seed groups = registerAll seed (offers groups) := by
  rw [registerAll, offers, List.foldl_flatMap]
  simp only [offersOf, List.foldl_map]
  rfl

theorem offers_append (left right : List PropertyGroup) :
    offers (left ++ right) = offers left ++ offers right :=
  List.flatMap_append

theorem mem_offers {groups : List PropertyGroup} {entry : Text × Text} :
    entry ∈ offers groups ↔ ∃ group ∈ groups,
      entry.2 ∈ group.properties ∧ entry.1 = group.attributeName entry.2 := by
  simp only [offers, offersOf, List.mem_flatMap, List.mem_map]
  constructor
  · rintro ⟨group, among, property, member, rfl⟩
    exact ⟨group, among, member, rfl⟩
  · rintro ⟨group, among, member, named⟩
    exact ⟨group, among, entry.2, member, Prod.ext named.symm rfl⟩

/-! ## One registration -/

theorem lookup_eq_none_iff {table : List (Text × Text)} {name : Text} :
    table.lookup name = none ↔ name ∉ names table := by
  rw [List.lookup_eq_none_iff, names, List.mem_map]
  constructor
  · rintro apart ⟨entry, member, rfl⟩
    exact bne_iff_ne.mp (apart entry member) rfl
  · intro absent entry member
    rw [bne_iff_ne]
    rintro rfl
    exact absent ⟨entry, member, rfl⟩

theorem isSome_lookup_iff {table : List (Text × Text)} {name : Text} :
    (table.lookup name).isSome = true ↔ name ∈ names table := by
  rw [← Option.ne_none_iff_isSome, ne_eq, lookup_eq_none_iff, Decidable.not_not]

theorem register_of_mem {table : List (Text × Text)} {name : Text} (known : name ∈ names table)
    (property : Text) : register table name property = table := by
  rw [register, if_pos (isSome_lookup_iff.mpr known)]

theorem register_of_not_mem {table : List (Text × Text)} {name : Text}
    (new : name ∉ names table) (property : Text) :
    register table name property = table ++ [(name, property)] := by
  rw [register, if_neg (mt isSome_lookup_iff.mp new)]

/-- A registration is found exactly if nothing was found before it. -/
theorem lookup_register (table : List (Text × Text)) (name property key : Text) :
    (register table name property).lookup key =
      (table.lookup key).or ([(name, property)].lookup key) := by
  by_cases known : name ∈ names table
  · rw [register_of_mem known]
    by_cases same : key = name
    · obtain ⟨value, found⟩ := Option.isSome_iff_exists.mp (isSome_lookup_iff.mpr known)
      rw [same, found, Option.some_or]
    · rw [List.lookup_cons, beq_false_of_ne same, List.lookup_nil, Option.or_none]
  · rw [register_of_not_mem known, List.lookup_append]

theorem prefix_register (table : List (Text × Text)) (name property : Text) :
    table <+: register table name property := by
  rw [register]
  split
  · exact List.prefix_refl table
  · exact List.prefix_append table _

/-- A registration does not give a name a second entry. -/
theorem nodup_names_register (table : List (Text × Text)) (name property : Text) :
    (names (register table name property)).Nodup ↔ (names table).Nodup := by
  by_cases known : name ∈ names table
  · rw [register_of_mem known]
  · rw [register_of_not_mem known, names, List.map_append, List.nodup_append]
    simp only [List.map_cons, List.map_nil, List.nodup_cons, List.not_mem_nil, not_false_iff,
      List.nodup_nil, and_true, true_and, List.mem_singleton, forall_eq]
    constructor
    · exact And.left
    · intro distinct
      refine ⟨distinct, ?_⟩
      rintro other member rfl
      exact known member

/-! ## All registrations -/

theorem registerAll_cons (table : List (Text × Text)) (name property : Text)
    (rest : List (Text × Text)) :
    registerAll table ((name, property) :: rest) =
      registerAll (register table name property) rest := rfl

theorem registerAll_append (table left right : List (Text × Text)) :
    registerAll table (left ++ right) = registerAll (registerAll table left) right :=
  List.foldl_append

/-- A name is looked up in the table first, and then among the offers in their order. -/
theorem lookup_registerAll (table offered : List (Text × Text)) (key : Text) :
    (registerAll table offered).lookup key = (table.lookup key).or (offered.lookup key) := by
  induction offered generalizing table with
  | nil => exact (Option.or_none).symm
  | cons offer rest induction =>
    rw [registerAll_cons, induction, lookup_register, Option.or_assoc, ← List.lookup_append,
      List.singleton_append]

/-- Registering adds nothing but what is offered. -/
theorem mem_registerAll {table offered : List (Text × Text)} {entry : Text × Text}
    (member : entry ∈ registerAll table offered) : entry ∈ table ∨ entry ∈ offered := by
  induction offered generalizing table with
  | nil => exact .inl member
  | cons offer rest induction =>
    obtain ⟨name, property⟩ := offer
    rw [registerAll_cons] at member
    rcases induction member with registered | later
    · by_cases known : name ∈ names table
      · rw [register_of_mem known] at registered
        exact .inl registered
      · rw [register_of_not_mem known, List.mem_append, List.mem_singleton] at registered
        rcases registered with old | rfl
        · exact .inl old
        · exact .inr List.mem_cons_self
    · exact .inr (List.mem_cons_of_mem _ later)

/-- An entry is one of the seed, or has a property of a descriptor under the name for it. -/
theorem mem_buildTable {seed : List (Text × Text)} {groups : List PropertyGroup}
    {entry : Text × Text} (member : entry ∈ buildTable seed groups) :
    entry ∈ seed ∨ ∃ group ∈ groups,
      entry.2 ∈ group.properties ∧ entry.1 = group.attributeName entry.2 := by
  rw [buildTable_eq] at member
  exact (mem_registerAll member).imp_right mem_offers.mp

/-- Every attribute of a descriptor has an entry in the table. -/
theorem isSome_lookup_buildTable {seed : List (Text × Text)} {groups : List PropertyGroup}
    {key : Text}
    (known : (seed.lookup key).isSome = true ∨
      ∃ group ∈ groups, ∃ property ∈ group.properties, key = group.attributeName property) :
    ((buildTable seed groups).lookup key).isSome = true := by
  rw [buildTable_eq, lookup_registerAll, Option.isSome_or, Bool.or_eq_true]
  rcases known with old | ⟨group, among, property, member, named⟩
  · exact .inl old
  · have offered : (key, property) ∈ offers groups :=
      mem_offers.mpr ⟨group, among, member, named⟩
    exact .inr (isSome_lookup_iff.mpr (List.mem_map_of_mem offered))

theorem prefix_registerAll (table offered : List (Text × Text)) :
    table <+: registerAll table offered := by
  induction offered generalizing table with
  | nil => exact List.prefix_refl table
  | cons offer rest induction =>
    exact (prefix_register table offer.1 offer.2).trans (induction _)

theorem nodup_names_registerAll (table offered : List (Text × Text)) :
    (names (registerAll table offered)).Nodup ↔ (names table).Nodup := by
  induction offered generalizing table with
  | nil => exact Iff.rfl
  | cons offer rest induction =>
    rw [registerAll_cons, induction, nodup_names_register]

/-- New names follow those of the table, in the order in which they are first offered. -/
theorem names_registerAll (table offered : List (Text × Text)) :
    names (registerAll table offered) =
      names table ++ ((names offered).removeAll (names table)).eraseDups := by
  induction offered generalizing table with
  | nil => exact (List.append_nil _).symm
  | cons offer rest induction =>
    obtain ⟨name, property⟩ := offer
    have split : names ((name, property) :: rest) = name :: names rest := rfl
    rw [registerAll_cons, induction, split, List.removeAll, List.removeAll]
    by_cases known : name ∈ names table
    · rw [register_of_mem known, List.filter_cons_of_neg (by simpa using known)]
    · have grown : names (table ++ [(name, property)]) = names table ++ [name] := by
        simp [names]
      rw [register_of_not_mem known, grown, List.filter_cons_of_pos (by simpa using known),
        List.eraseDups_cons, List.filter_filter, List.append_assoc, List.singleton_append]
      -- an offer of the new name is one that the grown table knows
      congr 3
      apply List.filter_congr
      intro other _
      rw [Bool.eq_iff_iff]
      simp [and_comm]

/-! ## The first property with an attribute -/

/-- Whether a property is the first of a descriptor whose attribute has a name. -/
def IsFirstOf (group : PropertyGroup) (name property : Text) : Prop :=
  ∃ front back, group.properties = front ++ property :: back ∧
    group.attributeName property = name ∧ ∀ earlier ∈ front, group.attributeName earlier ≠ name

/--
Whether a property is the first one whose attribute has a name: it is the first
of its descriptor, and no earlier descriptor has a property with that attribute.
-/
def IsFirst (groups : List PropertyGroup) (name property : Text) : Prop :=
  ∃ before group after, groups = before ++ group :: after ∧ IsFirstOf group name property ∧
    ∀ other ∈ before, ∀ earlier ∈ other.properties, other.attributeName earlier ≠ name

theorem isFirst_cons {group : PropertyGroup} {rest : List PropertyGroup} {name property : Text} :
    IsFirst (group :: rest) name property ↔
      IsFirstOf group name property ∨
        (∀ earlier ∈ group.properties, group.attributeName earlier ≠ name) ∧
          IsFirst rest name property := by
  constructor
  · rintro ⟨before, holder, after, split, found, apart⟩
    rcases List.cons_eq_append_iff.mp split with ⟨rfl, same⟩ | ⟨others, rfl, rfl⟩
    · obtain ⟨rfl, -⟩ := List.cons.inj same
      exact .inl found
    · rw [List.forall_mem_cons] at apart
      exact .inr ⟨apart.1, others, holder, after, rfl, found, apart.2⟩
  · rintro (found | ⟨none, before, holder, after, rfl, found, apart⟩)
    · exact ⟨[], group, rest, rfl, found, by simp⟩
    · exact ⟨group :: before, holder, after, rfl, found, List.forall_mem_cons.mpr ⟨none, apart⟩⟩

theorem lookup_offersOf_eq_none_iff {group : PropertyGroup} {name : Text} :
    (offersOf group).lookup name = none ↔
      ∀ property ∈ group.properties, group.attributeName property ≠ name := by
  rw [lookup_eq_none_iff]
  simp [names, offersOf]

theorem lookup_offersOf_eq_some_iff {group : PropertyGroup} {name property : Text} :
    (offersOf group).lookup name = some property ↔ IsFirstOf group name property := by
  rw [List.lookup_eq_some_iff, offersOf]
  constructor
  · rintro ⟨before, after, split, apart⟩
    obtain ⟨front, others, listed, rfl, continued⟩ := List.map_eq_append_iff.mp split
    obtain ⟨first, back, rfl, same, rfl⟩ := List.map_eq_cons_iff.mp continued
    obtain ⟨named, rfl⟩ := Prod.mk.inj same
    refine ⟨front, back, listed, named, ?_⟩
    intro earlier member
    exact (bne_iff_ne.mp (apart _ (List.mem_map_of_mem member))).symm
  · rintro ⟨front, back, listed, rfl, apart⟩
    rw [listed, List.map_append, List.map_cons]
    refine ⟨_, _, rfl, ?_⟩
    intro entry member
    obtain ⟨earlier, inFront, rfl⟩ := List.mem_map.mp member
    exact bne_iff_ne.mpr (apart earlier inFront).symm

/-- Among the offers of descriptors the first property with an attribute is found. -/
theorem lookup_offers_eq_some_iff {groups : List PropertyGroup} {name property : Text} :
    (offers groups).lookup name = some property ↔ IsFirst groups name property := by
  induction groups with
  | nil =>
    constructor
    · rintro ⟨⟩
    · rintro ⟨before, group, after, split, -⟩
      exact absurd split.symm (by simp)
  | cons group rest induction =>
    rw [offers, List.flatMap_cons, List.lookup_append, Option.or_eq_some_iff, ← offers, induction,
      lookup_offersOf_eq_some_iff, lookup_offersOf_eq_none_iff, isFirst_cons]

/--
A table keeps the entries of its seed; any other name has the first property
whose attribute it is, and there are no other names.  New names follow those of
the seed in the order of their first registration, and no name gets a second
entry.  Further descriptors only add entries at the end.
-/
theorem buildTable_keeps_first (seed : List (Text × Text)) (groups : List PropertyGroup) :
    (∀ name value, (buildTable seed groups).lookup name = some value ↔
      seed.lookup name = some value ∨ seed.lookup name = none ∧ IsFirst groups name value) ∧
    names (buildTable seed groups) =
      names seed ++ ((names (offers groups)).removeAll (names seed)).eraseDups ∧
    ((names (buildTable seed groups)).Nodup ↔ (names seed).Nodup) ∧
    ∀ more, buildTable seed groups <+: buildTable seed (groups ++ more) := by
  rw [buildTable_eq]
  refine ⟨?_, names_registerAll seed _, nodup_names_registerAll seed _, ?_⟩
  · intro name value
    rw [lookup_registerAll, Option.or_eq_some_iff, lookup_offers_eq_some_iff]
  · intro more
    rw [buildTable_eq, offers_append, registerAll_append]
    exact prefix_registerAll _ _

/-- Two properties share an attribute with each other and a third one with the seed. -/
example :
    buildTable [("class".toList, "className".toList)]
        [⟨[], ["tabIndex".toList, "TABINDEX".toList], []⟩,
          ⟨[], ["order".toList, "cls".toList],
            [("order".toList, "tabIndex".toList), ("cls".toList, "CLASS".toList)]⟩] =
      [("class".toList, "className".toList), ("tabindex".toList, "tabIndex".toList)] := by
  decide +kernel

end HtmlJsx.AttributeName
