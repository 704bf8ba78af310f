import HtmlJsx.Proofs.Structure
import Mathlib.Data.List.Nodup

/-!
# Distinct attributes get distinct names

The JSX name of an attribute comes from the overrides of its element, from the
table of all elements, or is the attribute's own name.  Names from different
sources do not meet: what the tables give has a capital letter in it, unless it
is the attribute's own name, and no property stands in two of the sources.

There is one exception.  The property of `panose-1` is `panose1`, which has no
capital letter and is not in the table as an attribute, so an attribute
`panose1` keeps its name and meets the other one.
-/

namespace HtmlJsx.AttributeName

open PropertyGroup

/-! ## Lists without common names -/

/-- The bytes of a name read as the digits of a number. -/
def code (name : String) : Nat :=
  name.toByteArray.data.toList.foldl (fun total byte => total * 256 + byte.toNat) 0

/-- Whether the codes of two lists of names differ; numbers are faster to compare than names. -/
def areApart (left right : List String) : Bool :=
  (left.map code).all fun first => (right.map code).all fun second => !Nat.beq first second

theorem not_mem_of_areApart {left right : List String} (apart : areApart left right = true)
    {name : Text} (member : name ∈ left.map String.toList) : name ∉ right.map String.toList := by
  obtain ⟨first, inLeft, rfl⟩ := List.mem_map.mp member
  intro other
  obtain ⟨second, inRight, same⟩ := List.mem_map.mp other
  rw [areApart, List.all_eq_true] at apart
  have differs := List.all_eq_true.mp (apart _ (List.mem_map_of_mem inLeft)) _
    (List.mem_map_of_mem inRight)
  rw [String.toList_inj.mp same, Bool.not_eq_true', ← Bool.not_eq_true, Nat.beq_eq] at differs
  exact differs rfl

/-- The names that overrides and moved contents give, which are those of no descriptor. -/
def reservedNames : List String :=
  ["defaultChecked", "defaultValue", "autoFocus", "dangerouslySetInnerHTML"]

theorem areApart_names :
    (areApart htmlProperties svgProperties &&
      areApart reservedNames (htmlProperties ++ svgProperties)) = true := by
  decide +kernel

theorem not_mem_svg_of_mem_html {property : Text} (member : property ∈ html.properties) :
    property ∉ svg.properties :=
  not_mem_of_areApart (Bool.and_eq_true_iff.mp areApart_names).1 member

theorem not_mem_of_mem_reservedNames {property : Text}
    (member : property ∈ reservedNames.map String.toList) :
    property ∉ html.properties ∧ property ∉ svg.properties := by
  have absent := not_mem_of_areApart (Bool.and_eq_true_iff.mp areApart_names).2 member
  rw [List.map_append, List.mem_append, not_or] at absent
  exact absent

/-! ## The entries of the table -/

def panoseAttribute : Text := "panose-1".toList

def panoseProperty : Text := "panose1".toList

/--
Whether an entry is in its place.  A property in lower case is its own
attribute, except that of `panose-1`; and no other entry has to do with the
names of this exception or with styles.
-/
def isPlaced (key property : Text) : Bool :=
  (key != panoseAttribute || property == panoseProperty) && key != panoseProperty &&
    (key != Property.styleAttribute || property == Property.styleAttribute) &&
    (Text.lower property != property || key == property || key == panoseAttribute)

structure IsPlaced (key property : Text) : Prop where
  panose : key = panoseAttribute → property = panoseProperty
  other : key ≠ panoseProperty
  style : key = Property.styleAttribute → property = Property.styleAttribute
  low : Text.lower property = property → key = property ∨ key = panoseAttribute

theorem IsPlaced.of_isPlaced {key property : Text} (placed : isPlaced key property = true) :
    IsPlaced key property := by
  simp only [isPlaced, Bool.and_eq_true, Bool.or_eq_true, bne_iff_ne, beq_iff_eq] at placed
  obtain ⟨⟨⟨panose, other⟩, style⟩, low⟩ := placed
  constructor
  · exact fun same => panose.resolve_left (not_not_intro same)
  · exact other
  · exact fun same => style.resolve_left (not_not_intro same)
  · intro same
    rcases low with (differs | own) | exception
    · exact absurd same differs
    · exact .inl own
    · exact .inr exception

/-- Whether all entries of a descriptor are in their places. -/
def isOrderly (group : PropertyGroup) : Bool :=
  (group.spellings.all fun entry => isPlaced (Text.lower entry.2) entry.1) &&
    group.properties.all fun property =>
      isPlaced (Text.lower property) property || (group.spellings.lookup property).isSome

theorem isPlaced_attributeName {group : PropertyGroup} (orderly : isOrderly group = true)
    {property : Text} (member : property ∈ group.properties) :
    IsPlaced (group.attributeName property) property := by
  rw [isOrderly, Bool.and_eq_true, List.all_eq_true, List.all_eq_true] at orderly
  apply IsPlaced.of_isPlaced
  rw [PropertyGroup.attributeName]
  cases found : group.spellings.lookup property with
  | some spelling => exact orderly.1 _ (mem_of_lookup found)
  | none =>
    have placed := orderly.2 property member
    rw [found, Option.isSome_none, Bool.or_false] at placed
    exact placed

theorem isOrderly_groups : (isOrderly html && isOrderly svg) = true := by
  decide +kernel

/-- The seed repeats entries of the descriptor of HTML. -/
theorem seed_subset_html : ∀ entry ∈ seed,
    entry.2 ∈ html.properties ∧ entry.1 = html.attributeName entry.2 := by
  decide +kernel

theorem origin_of_mem_table {key property : Text} (member : (key, property) ∈ table) :
    (property ∈ html.properties ∧ key = html.attributeName property) ∨
      property ∈ svg.properties ∧ key = svg.attributeName property := by
  rcases mem_buildTable member with seeded | ⟨group, inGroups, found⟩
  · exact .inl (seed_subset_html _ seeded)
  · rw [List.mem_cons, List.mem_singleton] at inGroups
    rcases inGroups with rfl | rfl
    · exact .inl found
    · exact .inr found

theorem isPlaced_of_mem_table {key property : Text} (member : (key, property) ∈ table) :
    IsPlaced key property := by
  obtain ⟨orderlyHtml, orderlySvg⟩ := Bool.and_eq_true_iff.mp isOrderly_groups
  rcases origin_of_mem_table member with ⟨inHtml, rfl⟩ | ⟨inSvg, rfl⟩
  · exact isPlaced_attributeName orderlyHtml inHtml
  · exact isPlaced_attributeName orderlySvg inSvg

/-- A property of the table belongs to one attribute. -/
theorem key_unique_of_mem_table {left right property : Text} (first : (left, property) ∈ table)
    (second : (right, property) ∈ table) : left = right := by
  rcases origin_of_mem_table first with ⟨inHtml, rfl⟩ | ⟨inSvg, rfl⟩
  · rcases origin_of_mem_table second with ⟨-, rfl⟩ | ⟨inSvg, -⟩
    · rfl
    · exact absurd inSvg (not_mem_svg_of_mem_html inHtml)
  · rcases origin_of_mem_table second with ⟨inHtml, -⟩ | ⟨-, rfl⟩
    · exact absurd inSvg (not_mem_svg_of_mem_html inHtml)
    · rfl

/-! ## The entries of an element -/

/-- The entries that hold on an element, its own ones first. -/
def entriesOf (element : Text) : List (Text × Text) :=
  overridesOf element ++ table

theorem toJsx_of_low {name : Text} (low : Text.lower name = name) (element : Text) :
    toJsx element name = ((entriesOf element).lookup name).getD name := by
  rw [entriesOf, List.lookup_append, toJsx, low]
  split
  · next found => rw [found, Option.some_or, Option.getD_some]
  · next found => rw [found, Option.none_or]

/-- What an override must be for its name to be met by no other one. -/
def isReserved (entry : Text × Text) : Bool :=
  (reservedNames.map String.toList).contains entry.2 && Text.lower entry.2 != entry.2 &&
    entry.1 != panoseAttribute && entry.1 != panoseProperty && entry.1 != Property.styleAttribute

structure IsReserved (entry : Text × Text) : Prop where
  reserved : entry.2 ∈ reservedNames.map String.toList
  cased : Text.lower entry.2 ≠ entry.2
  notPanose : entry.1 ≠ panoseAttribute ∧ entry.1 ≠ panoseProperty
  notStyle : entry.1 ≠ Property.styleAttribute

theorem isReserved_overrides : ∀ override ∈ overrides,
    (∀ entry ∈ override.2, isReserved entry = true) ∧
      ∀ left ∈ override.2, ∀ right ∈ override.2, left.2 = right.2 → left.1 = right.1 := by
  decide +kernel

theorem overridesOf_cases (element : Text) :
    overridesOf element = [] ∨ ∃ override ∈ overrides, overridesOf element = override.2 := by
  rw [overridesOf]
  cases found : overrides.lookup element with
  | none => exact .inl rfl
  | some entries => exact .inr ⟨_, mem_of_lookup found, rfl⟩

theorem isReserved_of_mem_overridesOf {element : Text} {entry : Text × Text}
    (member : entry ∈ overridesOf element) : IsReserved entry := by
  rcases overridesOf_cases element with none | ⟨override, listed, same⟩
  · rw [none] at member
    cases member
  · rw [same] at member
    have holds := (isReserved_overrides override listed).1 entry member
    simp only [isReserved, Bool.and_eq_true, List.contains_eq_mem, decide_eq_true_eq,
      bne_iff_ne] at holds
    obtain ⟨⟨⟨⟨reserved, cased⟩, first⟩, second⟩, style⟩ := holds
    exact ⟨reserved, cased, ⟨first, second⟩, style⟩

theorem not_mem_table_of_reserved {key property : Text}
    (reserved : property ∈ reservedNames.map String.toList) : (key, property) ∉ table := by
  obtain ⟨notHtml, notSvg⟩ := not_mem_of_mem_reservedNames reserved
  intro member
  rcases origin_of_mem_table member with ⟨inHtml, -⟩ | ⟨inSvg, -⟩
  · exact notHtml inHtml
  · exact notSvg inSvg

/-- On an element, a property belongs to one attribute. -/
theorem key_unique_of_mem_entriesOf {element left right property : Text}
    (first : (left, property) ∈ entriesOf element)
    (second : (right, property) ∈ entriesOf element) : left = right := by
  rcases List.mem_append.mp first with own | common
  · rcases List.mem_append.mp second with ownToo | common
    · rcases overridesOf_cases element with none | ⟨override, listed, same⟩
      · rw [none] at own
        cases own
      · rw [same] at own ownToo
        exact (isReserved_overrides override listed).2 _ own _ ownToo rfl
    · exact absurd common (not_mem_table_of_reserved (isReserved_of_mem_overridesOf own).reserved)
  · rcases List.mem_append.mp second with own | commonToo
    · exact absurd common (not_mem_table_of_reserved (isReserved_of_mem_overridesOf own).reserved)
    · exact key_unique_of_mem_table common commonToo

/-- A property in lower case that is no attribute with an entry is the exception. -/
theorem panose_of_mem_entriesOf {element key property : Text}
    (member : (key, property) ∈ entriesOf element) (low : Text.lower property = property)
    (unlisted : (entriesOf element).lookup property = none) :
    key = panoseAttribute ∧ property = panoseProperty := by
  rcases List.mem_append.mp member with own | common
  · exact absurd low (isReserved_of_mem_overridesOf own).cased
  · have placed := isPlaced_of_mem_table common
    rcases placed.low low with rfl | exception
    · have differs := List.lookup_eq_none_iff.mp unlisted _ member
      exact absurd rfl (bne_iff_ne.mp differs)
    · exact ⟨exception, placed.panose exception⟩

/-! ## The exception -/

theorem lookup_overridesOf_eq_none {key : Text}
    (other : key = panoseAttribute ∨ key = panoseProperty ∨ key = Property.styleAttribute)
    (element : Text) : (overridesOf element).lookup key = none := by
  rw [List.lookup_eq_none_iff]
  intro entry member
  have reserved := isReserved_of_mem_overridesOf member
  rw [bne_iff_ne]
  rintro rfl
  rcases other with same | same | same
  · exact reserved.notPanose.1 same
  · exact reserved.notPanose.2 same
  · exact reserved.notStyle same

theorem lower_panose : Text.lower panoseAttribute = panoseAttribute ∧
    Text.lower panoseProperty = panoseProperty := by
  decide

theorem svg_panose : panoseProperty ∈ svg.properties ∧
    panoseAttribute = svg.attributeName panoseProperty := by
  decide +kernel

theorem toJsx_panoseAttribute (element : Text) :
    toJsx element panoseAttribute = panoseProperty := by
  have listed : (table.lookup panoseAttribute).isSome = true :=
    isSome_lookup_buildTable (.inr ⟨svg, by simp, panoseProperty, svg_panose⟩)
  obtain ⟨property, found⟩ := Option.isSome_iff_exists.mp listed
  rw [toJsx, lower_panose.1, lookup_overridesOf_eq_none (.inl rfl), found]
  exact (isPlaced_of_mem_table (mem_of_lookup found)).panose rfl

theorem toJsx_panoseProperty (element : Text) :
    toJsx element panoseProperty = panoseProperty := by
  rw [toJsx, lower_panose.2, lookup_overridesOf_eq_none (.inr (.inl rfl))]
  cases found : table.lookup panoseProperty with
  | none => rfl
  | some property => exact absurd rfl (isPlaced_of_mem_table (mem_of_lookup found)).other

theorem toJsx_style (element : Text) :
    toJsx element Property.styleAttribute = Property.styleAttribute := by
  have low : Text.lower Property.styleAttribute = Property.styleAttribute := by decide
  rw [toJsx, low, lookup_overridesOf_eq_none (.inr (.inr rfl))]
  cases found : table.lookup Property.styleAttribute with
  | none => rfl
  | some property => exact (isPlaced_of_mem_table (mem_of_lookup found)).style rfl

/-- Two names are those of the exception, in this order. -/
def ArePanose (left right : Text) : Prop :=
  left = panoseAttribute ∧ right = panoseProperty

/-- Two attributes in lower case get the same name only if they are equal, or the exception. -/
theorem toJsx_eq_iff {element left right : Text} (lowLeft : Text.lower left = left)
    (lowRight : Text.lower right = right) :
    toJsx element left = toJsx element right ↔
      left = right ∨ ArePanose left right ∨ ArePanose right left := by
  constructor
  · rw [toJsx_of_low lowLeft, toJsx_of_low lowRight]
    intro same
    cases foundLeft : (entriesOf element).lookup left with
    | some property =>
      have entryLeft := mem_of_lookup foundLeft
      cases foundRight : (entriesOf element).lookup right with
      | some other =>
        obtain rfl : property = other := by simpa [foundLeft, foundRight] using same
        exact .inl (key_unique_of_mem_entriesOf entryLeft (mem_of_lookup foundRight))
      | none =>
        obtain rfl : property = right := by simpa [foundLeft, foundRight] using same
        exact .inr (.inl (panose_of_mem_entriesOf entryLeft lowRight foundRight))
    | none =>
      cases foundRight : (entriesOf element).lookup right with
      | some property =>
        obtain rfl : left = property := by simpa [foundLeft, foundRight] using same
        exact .inr (.inr (panose_of_mem_entriesOf (mem_of_lookup foundRight) lowLeft foundLeft))
      | none => exact .inl (by simpa [foundLeft, foundRight] using same)
  · rintro (rfl | ⟨rfl, rfl⟩ | ⟨rfl, rfl⟩)
    · rfl
    · rw [toJsx_panoseAttribute, toJsx_panoseProperty]
    · rw [toJsx_panoseAttribute, toJsx_panoseProperty]

/-! ## The properties of an element -/

open Structure Outcome

/-- A property is written under a name: the name alone, or with a value after it. -/
def IsWrittenAs (name text : Text) : Prop :=
  text = name ∨ ∃ value, text = name ++ '=' :: value

theorem IsWrittenAs.of_propertyText {name text : Text} (written : Reader.PropertyText name text) :
    IsWrittenAs name text := by
  cases written with
  | bare => exact .inl rfl
  | quoted => exact .inr ⟨_, rfl⟩
  | expression => exact .inr ⟨_, rfl⟩

theorem isWrittenAs_ofAttribute {element name value text : Text} (low : Text.lower name = name)
    (written : Property.ofAttribute element name value = .ok text) :
    IsWrittenAs (toJsx element name) text := by
  by_cases style : Text.lower name = Property.styleAttribute
  · rw [Property.ofAttribute, if_pos style] at written
    obtain ⟨object, -, written⟩ := bind_eq_ok_iff.mp written
    obtain rfl := Except.ok.inj written
    rw [← low, style, toJsx_style]
    exact .inr ⟨_, rfl⟩
  · exact .of_propertyText (propertyText_ofAttribute style written)

theorem isWrittenAs_ofAttributes {element : Text} {attributes : Attributes} {texts : List Text}
    (low : ∀ name ∈ attributes.map Prod.fst, Text.lower name = name)
    (written : Property.ofAttributes element attributes = .ok texts) :
    List.Forall₂ IsWrittenAs (attributes.map fun entry => toJsx element entry.1) texts := by
  induction attributes generalizing texts with
  | nil =>
    cases written
    exact .nil
  | cons entry rest induction =>
    obtain ⟨name, value⟩ := entry
    rw [List.map_cons, List.forall_mem_cons] at low
    obtain ⟨first, begun, written⟩ := bind_eq_ok_iff.mp written
    obtain ⟨others, remaining, written⟩ := bind_eq_ok_iff.mp written
    obtain rfl := Except.ok.inj written
    exact .cons (isWrittenAs_ofAttribute low.1 begun) (induction low.2 remaining)

theorem isWrittenAs_properties {tag : Text} {attributes : Attributes} {children : List Node}
    {texts : List Text} (low : ∀ name ∈ attributes.map Prod.fst, Text.lower name = name)
    (written : Canvas.properties tag attributes children = .ok texts) :
    List.Forall₂ IsWrittenAs (propertyNames tag attributes) texts := by
  obtain ⟨given, found, written⟩ := bind_eq_ok_iff.mp written
  obtain rfl := Except.ok.inj written
  apply List.rel_append (isWrittenAs_ofAttributes low found)
  exact (propertyTexts_ofContents _ _).imp fun _ _ named => .of_propertyText named

/-- The name of moved contents is reserved, and the element has no overrides. -/
theorem reserved_of_mem_contentsNames {element name : Text} (member : name ∈ contentsNames element) :
    name ∈ reservedNames.map String.toList ∧ Text.lower name ≠ name ∧ overridesOf element = [] := by
  rw [contentsNames] at member
  split at member
  · next textarea =>
    rw [List.mem_singleton.mp member, textarea]
    decide
  split at member
  · next style =>
    rw [List.mem_singleton.mp member, style]
    decide
  · cases member

/-- No attribute gets the name of the moved contents of its element. -/
theorem toJsx_not_mem_contentsNames {element name : Text} (low : Text.lower name = name) :
    toJsx element name ∉ contentsNames element := by
  intro member
  obtain ⟨reserved, cased, own⟩ := reserved_of_mem_contentsNames member
  rw [toJsx_of_low low, entriesOf, own, List.nil_append] at reserved cased
  cases found : table.lookup name with
  | some property =>
    rw [found] at reserved
    exact not_mem_table_of_reserved reserved (mem_of_lookup found)
  | none =>
    rw [found] at cased
    exact cased low

theorem nodup_contentsNames (element : Text) : (contentsNames element).Nodup := by
  rw [contentsNames]
  split
  · exact List.nodup_singleton _
  split
  · exact List.nodup_singleton _
  · exact List.nodup_nil

theorem nodup_propertyNames_iff {tag : Text} {attributes : Attributes}
    (distinct : (attributes.map Prod.fst).Nodup)
    (low : ∀ name ∈ attributes.map Prod.fst, Text.lower name = name) :
    (propertyNames tag attributes).Nodup ↔
      ¬ (panoseAttribute ∈ attributes.map Prod.fst ∧
        panoseProperty ∈ attributes.map Prod.fst) := by
  have renamed : (attributes.map fun entry => toJsx (ElementName.toJsx tag) entry.1) =
      (attributes.map Prod.fst).map (toJsx (ElementName.toJsx tag)) := by
    rw [List.map_map]
    rfl
  rw [propertyNames, renamed, List.nodup_append]
  generalize attributes.map Prod.fst = names at distinct low
  generalize ElementName.toJsx tag = element
  rw [List.nodup_map_iff_inj_on distinct]
  constructor
  · rintro ⟨injective, -⟩ ⟨inMarkup, alone⟩
    have same : toJsx element panoseAttribute = toJsx element panoseProperty := by
      rw [toJsx_panoseAttribute, toJsx_panoseProperty]
    exact absurd (injective _ inMarkup _ alone same) (by decide)
  · intro apart
    refine ⟨?_, nodup_contentsNames element, ?_⟩
    · intro left inLeft right inRight same
      rcases (toJsx_eq_iff (low left inLeft) (low right inRight)).mp same with
        equal | ⟨rfl, rfl⟩ | ⟨rfl, rfl⟩
      · exact equal
      · exact absurd ⟨inLeft, inRight⟩ apart
      · exact absurd ⟨inRight, inLeft⟩ apart
    · rintro written given other contents rfl
      obtain ⟨name, inNames, rfl⟩ := List.mem_map.mp given
      exact toJsx_not_mem_contentsNames (low name inNames) contents

/--
On every element, two different attributes in lower case get the same JSX name
exactly if they are `panose-1` and `panose1`.  So an element whose attributes
have different names in lower case is written with different property names,
unless it has both of these attributes.
-/
theorem toJsx_eq_iff_panose :
    (∀ element left right, Text.lower left = left → Text.lower right = right → left ≠ right →
      (toJsx element left = toJsx element right ↔ ArePanose left right ∨ ArePanose right left)) ∧
    ∀ tag (attributes : Attributes) children texts,
      (attributes.map Prod.fst).Nodup →
      (∀ name ∈ attributes.map Prod.fst, Text.lower name = name) →
      Canvas.properties tag attributes children = .ok texts →
      List.Forall₂ IsWrittenAs (propertyNames tag attributes) texts ∧
        ((propertyNames tag attributes).Nodup ↔
          ¬ (panoseAttribute ∈ attributes.map Prod.fst ∧
            panoseProperty ∈ attributes.map Prod.fst)) := by
  constructor
  · intro element left right lowLeft lowRight differ
    rw [toJsx_eq_iff lowLeft lowRight]
    exact or_iff_right differ
  · intro tag attributes children texts distinct low written
    exact ⟨isWrittenAs_properties low written, nodup_propertyNames_iff distinct low⟩

/-- The attributes of an input, of which two are overridden. -/
def inputAttributes : Attributes :=
  [("checked".toList, []), ("value".toList, "a".toList), ("style".toList, "color: red".toList)]

theorem toJsx_eq_iff_panose_input :
    toJsx "input".toList "value".toList ≠ toJsx "input".toList "defaultvalue".toList ∧
      ∃ texts, Canvas.properties "input".toList inputAttributes [] = .ok texts ∧
        List.Forall₂ IsWrittenAs (propertyNames "input".toList inputAttributes) texts ∧
        (propertyNames "input".toList inputAttributes).Nodup := by
  obtain ⟨names, elements⟩ := toJsx_eq_iff_panose
  constructor
  · intro same
    have exception := (names "input".toList "value".toList "defaultvalue".toList (by decide)
      (by decide) (by decide)).mp same
    rcases exception with ⟨wrong, -⟩ | ⟨-, wrong⟩
    · exact absurd wrong (by decide)
    · exact absurd wrong (by decide)
  · have written : Canvas.properties "input".toList inputAttributes [] =
        .ok ["defaultChecked".toList, "defaultValue=\"a\"".toList,
          "style=\x7b\x7bcolor: 'red'\x7d\x7d".toList] := by
      decide +kernel
    have low : (inputAttributes.map Prod.fst).all (fun name => Text.lower name == name) = true := by
      decide
    obtain ⟨named, exactly⟩ := elements "input".toList inputAttributes [] _ (by decide)
      (by simpa using List.all_eq_true.mp low) written
    exact ⟨_, written, named, exactly.mpr (by decide)⟩

/-- Two different attributes in lower case that are written under one name. -/
theorem panose_names_meet :
    Text.lower panoseAttribute = panoseAttribute ∧ Text.lower panoseProperty = panoseProperty ∧
      panoseAttribute ≠ panoseProperty ∧
      toJsx "p".toList panoseAttribute = toJsx "p".toList panoseProperty ∧
      ¬ (propertyNames "p".toList
        [(panoseAttribute, "a".toList), (panoseProperty, "b".toList)]).Nodup := by
  refine ⟨lower_panose.1, lower_panose.2, by decide, ?_, ?_⟩
  · rw [toJsx_panoseAttribute, toJsx_panoseProperty]
  · intro distinct
    rw [propertyNames, List.map_cons, List.map_cons, toJsx_panoseAttribute,
      toJsx_panoseProperty] at distinct
    exact (List.nodup_cons.mp distinct).1 List.mem_cons_self

end HtmlJsx.AttributeName
