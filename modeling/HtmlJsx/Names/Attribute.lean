import HtmlJsx.Names.Property

/-!
# Attribute names

The table from markup attribute names to JSX names is filled from property
descriptors.  A name that has been registered keeps its first entry, so a
seed comes before every descriptor and an earlier descriptor before a later
one.  A few elements override entries of the table.
-/

namespace HtmlJsx.AttributeName

/-- Register an attribute name unless it has an entry. -/
def register (table : List (Text × Text)) (name property : Text) : List (Text × Text) :=
  if (table.lookup name).isSome then table else table ++ [(name, property)]

/-- Register the properties of one descriptor in their order. -/
def registerGroup (table : List (Text × Text)) (group : PropertyGroup) : List (Text × Text) :=
  group.properties.foldl
    (fun table property => register table (group.attributeName property) property)
    table

/-- The table of a list of descriptors over a seed. -/
def buildTable (seed : List (Text × Text)) (groups : List PropertyGroup) : List (Text × Text) :=
  groups.foldl registerGroup seed

/-- The two attributes whose JSX names are words of their own. -/
def seed : List (Text × Text) :=
  [("for".toList, "htmlFor".toList), ("class".toList, "className".toList)]

/-- The table of all elements. -/
def table : List (Text × Text) :=
  buildTable seed [PropertyGroup.html, PropertyGroup.svg]

/-- Entries that hold on one element only, by JSX element name. -/
def overrides : List (Text × List (Text × Text)) :=
  [("input".toList,
    [("checked".toList, "defaultChecked".toList), ("value".toList, "defaultValue".toList),
      ("autofocus".toList, "autoFocus".toList)])]

/-- The overriding entries of an element. -/
def overridesOf (element : Text) : List (Text × Text) :=
  (overrides.lookup element).getD []

/-- The JSX name of an attribute: by the element's overrides, by the table, or unchanged. -/
def toJsx (element name : Text) : Text :=
  let key := Text.lower name
  match (overridesOf element).lookup key with
  | some property => property
  | none => (table.lookup key).getD name

end HtmlJsx.AttributeName
