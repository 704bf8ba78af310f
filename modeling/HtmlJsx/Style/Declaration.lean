import HtmlJsx.Number.Spelling
import HtmlJsx.Text.Case
import HtmlJsx.Text.Quoted

/-!
# Style declarations

The value of a `style` attribute is a list of declarations separated by
semicolons, each cut at its first colon.  Property names are trimmed and
lower-cased; a declaration without a property name is dropped.  A repeated
property keeps its place and takes the later value.

In JSX the declarations become the fields of an object: names in camel
case, integers bare, all other values in single quotes.
-/

namespace HtmlJsx

/-- The declarations of a style in the order of their first occurrence. -/
abbrev Style := List (Text × Text)

namespace Style

/-- Set a property: in its place if it is present, at the end otherwise. -/
def set : Style → Text → Text → Style
  | [], property, value => [(property, value)]
  | (name, old) :: rest, property, value =>
    if name = property then (name, value) :: rest else (name, old) :: set rest property value

/-- The property and value of one declaration, if it names a property. -/
def declaration? (source : Text) : Option (Text × Text) :=
  match Text.cut ':' (Text.trim source) with
  | none => none
  | some (name, value) =>
    let property := Text.lower (Text.trim name)
    if property.isEmpty then none else some (property, Text.trim value)

/-- Add a declaration to a style; a source that is none is dropped. -/
def add (style : Style) (source : Text) : Style :=
  match declaration? source with
  | none => style
  | some (property, value) => style.set property value

/-- The declarations of a style attribute. -/
def parse (source : Text) : Style :=
  (Text.pieces ';' source).foldl add []

/-- Drop every hyphen and put the character after it into upper case. -/
def camelCase : Text → Text
  | [] => []
  | [c] => [c]
  | first :: second :: rest =>
    if first = '-' ∧ second ≠ '\n' then
      Text.upperChar second ++ camelCase rest
    else
      first :: camelCase (second :: rest)

/-- The field name of a property; the vendor mark `-ms-` loses its hyphen first. -/
def fieldName (property : Text) : Text :=
  camelCase (if "-ms-".toList.isPrefixOf property then property.drop 1 else property)

/-- The field value of a property value. -/
def fieldValue (value : Text) : Except NumberFault Text := do
  if ← Spelling.isInteger value then
    return value
  else
    return '\'' :: Text.replace ['\''] ['"'] value ++ ['\'']

/-- The fields of a style with their values written out. -/
def fields : Style → Except NumberFault (List Text)
  | [] => .ok []
  | (property, value) :: rest => do
    let written ← fieldValue value
    let others ← fields rest
    return (fieldName property ++ [':', ' '] ++ written) :: others

/-- The body of the object that a style becomes. -/
def toObject (style : Style) : Except NumberFault Text :=
  (fields style).map (Text.join [',', ' '])

/-- A style as it is shown to a developer. -/
def display (style : Style) : Text :=
  let entry : Text × Text → Text := fun (property, value) =>
    Text.quoted property ++ [':', ' '] ++ Text.quoted value
  "StyleParser(".toList ++ '{' :: Text.join [',', ' '] (style.map entry) ++ ['}', ')']

end Style

end HtmlJsx
