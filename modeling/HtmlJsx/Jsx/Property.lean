import HtmlJsx.Markup.Token
import HtmlJsx.Names.Attribute
import HtmlJsx.Names.Element
import HtmlJsx.Style.Declaration
import HtmlJsx.Text.Literal

/-!
# Properties of JSX elements

An attribute becomes a property.  Integers are written as expressions,
other values between double quotes, and an attribute without a value as its
name alone; only an empty `alt` keeps its value.  The `style` attribute
becomes an object.  The contents of `textarea` and `style` elements become
properties too.
-/

namespace HtmlJsx.Property

/-- The attribute that becomes an object. -/
def styleAttribute : Text := "style".toList

/-- The attribute whose empty value is kept. -/
def altAttribute : Text := "alt".toList

/-- The value part of a property: what stands after its name. -/
def valuePart (name value : Text) : Except NumberFault Text := do
  if ← Spelling.isInteger value then
    return '=' :: '{' :: value ++ ['}']
  else if !value.isEmpty then
    return '=' :: '"' :: Text.replace ['"'] "&quot;".toList value ++ ['"']
  else if Text.lower name = altAttribute then
    return "=\"\"".toList
  else
    return []

/-- The object of a style attribute. -/
def style (value : Text) : Except NumberFault Text := do
  return "style=\x7b\x7b".toList ++ (← (Style.parse value).toObject) ++ "\x7d\x7d".toList

/-- The property of an attribute of an element. -/
def ofAttribute (element name value : Text) : Except NumberFault Text := do
  if Text.lower name = styleAttribute then
    style value
  else
    return AttributeName.toJsx element name ++ (← valuePart name value)

/-- The properties of a list of attributes. -/
def ofAttributes (element : Text) : Attributes → Except NumberFault (List Text)
  | [] => .ok []
  | (name, value) :: rest => do
    let first ← ofAttribute element name value
    return first :: (← ofAttributes element rest)

/-- The element whose contents become a default value. -/
def textareaElement : Text := "textarea".toList

/-- The element whose contents become inner markup. -/
def styleElement : Text := "style".toList

/-- The preformatted element. -/
def preElement : Text := "pre".toList

/-- Whether the contents of an element are moved into a property. -/
def movesContents (element : Text) : Bool :=
  element = textareaElement || element = styleElement

/-- The property that holds the contents of an element, if they are moved. -/
def ofContents (element contents : Text) : List Text :=
  if element = textareaElement then
    ["defaultValue=\x7b".toList ++ Text.literal contents ++ ['}']]
  else if element = styleElement then
    ["dangerouslySetInnerHTML=\x7b\x7b__html: ".toList ++ Text.literal contents ++
      " \x7d\x7d".toList]
  else
    []

end HtmlJsx.Property
