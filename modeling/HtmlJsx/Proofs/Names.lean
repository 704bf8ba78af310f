import HtmlJsx.Proofs.Reader.Property
import HtmlJsx.Proofs.Registration

/-!
# Written names are names

An attribute or element name that can be read as a name is written as one,
whichever of the tables it is looked up in.  For the large table this rests
on where its entries come from: registering adds nothing but the properties
of the descriptors to the seed.
-/

namespace HtmlJsx

open Reader

/-- What is found in a table is an entry of it. -/
theorem mem_of_lookup {κ α : Type} [BEq κ] [LawfulBEq κ] {table : List (κ × α)} {key : κ}
    {value : α} (found : table.lookup key = some value) : (key, value) ∈ table := by
  obtain ⟨before, after, split, -⟩ := List.lookup_eq_some_iff.mp found
  rw [split]
  exact List.mem_append_cons_self

/-! ## Names of letters and digits -/

/-- Whether the code of a character lies between those of digits or those of letters. -/
def isPlainChar (c : Char) : Bool :=
  Nat.ble 65 c.toNat && Nat.ble c.toNat 122 || Nat.ble 48 c.toNat && Nat.ble c.toNat 57

/-- A test for names that is fast to evaluate. -/
def isPlainName (name : Text) : Bool :=
  !name.isEmpty && name.all isPlainChar

theorem isNameChar_of_isPlainChar {c : Char} (plain : isPlainChar c = true) :
    isNameChar c = true := by
  have noBlank : isBlank c = false := by
    simp only [isPlainChar, Bool.or_eq_true, Bool.and_eq_true, Nat.ble_eq] at plain
    simp only [isBlank, Bool.or_eq_false_iff, Bool.and_eq_false_iff, decide_eq_false_iff_not,
      beq_eq_false_iff_ne]
    omega
  have noMark : c ∉ "<>/=\x7b\x7d\"'".toList := by
    intro member
    have others : ("<>/=\x7b\x7d\"'".toList.all fun mark => !isPlainChar mark) = true := by decide
    have other := List.all_eq_true.mp others c member
    rw [plain] at other
    cases other
  rw [isNameChar, noBlank, List.contains_eq_mem, decide_eq_false noMark]
  rfl

theorem isName_of_isPlainName {name : Text} (plain : isPlainName name = true) :
    isName name = true := by
  rw [isPlainName, Bool.and_eq_true, List.all_eq_true] at plain
  rw [isName, Bool.and_eq_true, List.all_eq_true]
  exact ⟨plain.1, fun c member => isNameChar_of_isPlainChar (plain.2 c member)⟩

/-! ## Attributes -/

namespace AttributeName

theorem isPlainName_html : PropertyGroup.html.properties.all isPlainName = true := by
  decide +kernel

theorem isPlainName_svg : PropertyGroup.svg.properties.all isPlainName = true := by
  decide +kernel

theorem isName_of_mem_table {entry : Text × Text} (member : entry ∈ table) :
    isName entry.2 = true := by
  apply isName_of_isPlainName
  rcases mem_buildTable member with seeded | ⟨group, inGroups, found, -⟩
  · exact (by decide : ∀ entry ∈ seed, isPlainName entry.2 = true) entry seeded
  · rw [List.mem_cons, List.mem_singleton] at inGroups
    rcases inGroups with rfl | rfl
    · exact List.all_eq_true.mp isPlainName_html entry.2 found
    · exact List.all_eq_true.mp isPlainName_svg entry.2 found

theorem isName_of_mem_overridesOf {element : Text} {entry : Text × Text}
    (member : entry ∈ overridesOf element) : isName entry.2 = true := by
  have checked : ∀ override ∈ overrides, ∀ entry ∈ override.2, isPlainName entry.2 = true := by
    decide
  rw [overridesOf] at member
  cases found : overrides.lookup element with
  | none =>
    rw [found] at member
    cases member
  | some entries =>
    rw [found] at member
    exact isName_of_isPlainName (checked _ (mem_of_lookup found) entry member)

/-- The name of an attribute is written as a name. -/
theorem isName_toJsx (element : Text) {name : Text} (named : isName name = true) :
    isName (toJsx element name) = true := by
  rw [toJsx]
  cases overridden : (overridesOf element).lookup (Text.lower name) with
  | some property => exact isName_of_mem_overridesOf (mem_of_lookup overridden)
  | none =>
    cases found : table.lookup (Text.lower name) with
    | some property => exact isName_of_mem_table (mem_of_lookup found)
    | none => exact named

end AttributeName

/-! ## Elements -/

namespace ElementName

theorem isPlainName_table : (table.all fun entry => isPlainName entry.2) = true := by
  decide +kernel

/-- The name of an element is written as a name. -/
theorem isName_toJsx {name : Text} (named : isName name = true) (lower : Text.lower name = name) :
    isName (toJsx name) = true := by
  rw [toJsx, lower]
  cases found : table.lookup name with
  | none => exact named
  | some spelling =>
    apply isName_of_isPlainName
    exact List.all_eq_true.mp isPlainName_table _ (mem_of_lookup found)

end ElementName

end HtmlJsx
