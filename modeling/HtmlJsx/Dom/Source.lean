import HtmlJsx.Dom.Node
import HtmlJsx.Text.Case
import HtmlJsx.Text.Blank

/-!
# Trees as markup

The markup of a tree, as it is needed where an element may contain text
only.  Attributes are sorted by name and always carry a value; the encoding
that a `meta` element announces is replaced by the one the markup is in.
-/

namespace HtmlJsx.Source

/-- Escape the characters that are special in markup. -/
def escapeChar (c : Char) : Text :=
  if c = '&' then "&amp;".toList
  else if c = '<' then "&lt;".toList
  else if c = '>' then "&gt;".toList
  else [c]

/-- Escape a text for markup. -/
def escape (text : Text) : Text :=
  text.flatMap escapeChar

/-- A value between quotes that do not occur in it, its double quotes escaped if both do. -/
def quoteValue (value : Text) : Text :=
  let escaped := escape value
  if !escaped.contains '"' then
    '"' :: escaped ++ ['"']
  else if !escaped.contains '\'' then
    '\'' :: escaped ++ ['\'']
  else
    '"' :: Text.replace ['"'] "&quot;".toList escaped ++ ['"']

/-- The name of the encoding of the markup. -/
def encoding : Text := "utf-8".toList

/-- The introduction of an encoding in the content of a `meta` element. -/
def charsetMark : Text := "charset=".toList

/--
Replace the encodings announced in a content.  An announcement begins the
content or a line, or follows a blank or a semicolon (`free` says so), and
its value, which runs to the next semicolon, is passed over.
-/
def announceFrom : (free : Bool) → (skip : Nat) → Text → Text
  | _, _, [] => []
  | _, skip + 1, _ :: rest => announceFrom false skip rest
  | free, 0, c :: rest =>
    if free && charsetMark.isPrefixOf (c :: rest) then
      let value := ((c :: rest).drop charsetMark.length).takeWhile (· != ';')
      charsetMark ++ encoding ++ announceFrom false (charsetMark.length + value.length - 1) rest
    else
      c :: announceFrom (isBlank c || c == ';') 0 rest

/-- The attributes of a `meta` element with the announced encoding replaced. -/
def announceEncoding (attributes : Attributes) : Attributes :=
  let replaceValue (name : Text) (change : Text → Text) : Attributes :=
    attributes.map fun (key, value) => (key, if key = name then change value else value)
  if (attributes.lookup "charset".toList).isSome then
    replaceValue "charset".toList fun _ => encoding
  else
    match attributes.lookup "http-equiv".toList with
    | some directive =>
      if Text.lower directive = "content-type".toList then
        replaceValue "content".toList (announceFrom true 0)
      else
        attributes
    | none => attributes

/-- Whether one text comes before another by the numbers of their characters. -/
def comesBefore (left right : Text) : Bool :=
  left.map Char.toNat < right.map Char.toNat

/-- Insert an attribute into a sorted list. -/
def insertByName (entry : Text × Text) : Attributes → Attributes
  | [] => [entry]
  | other :: rest =>
    if comesBefore other.1 entry.1 then other :: insertByName entry rest
    else entry :: other :: rest

/-- Sort attributes by name. -/
def sortAttributes (attributes : Attributes) : Attributes :=
  attributes.foldr insertByName []

/-- The markup of the attributes of an element. -/
def attributes (tag : Text) (given : Attributes) : Text :=
  let shown := if tag = "meta".toList then announceEncoding given else given
  (sortAttributes shown).flatMap fun (name, value) => ' ' :: name ++ '=' :: quoteValue value

/-- The markup of a special node. -/
def special (kind : SpecialKind) (content : Text) : Text :=
  match kind with
  | .doctype => "<!DOCTYPE ".toList ++ content ++ ['>', '\n']
  | .cdata => "<![CDATA[".toList ++ content ++ "]]>".toList
  | .instruction => '<' :: '?' :: content ++ ['>']
  | .declaration => '<' :: '?' :: content ++ ['?', '>']
  | .foreign _ => content

/-- Whether the text of an element is written without escapes. -/
def holdsRawText (tag : Text) : Bool :=
  tag = "script".toList || tag = "style".toList

mutual

/-- The markup of a node inside an element with the given name. -/
def node (parent : Text) : Node → Text
  | .element tag given children =>
    if children.isEmpty && voidElements.contains tag then
      '<' :: tag ++ attributes tag given ++ ['/', '>']
    else
      '<' :: tag ++ attributes tag given ++ ['>'] ++ nodes tag children ++
        '<' :: '/' :: tag ++ ['>']
  | .text content => if holdsRawText parent then content else escape content
  | .comment content => "<!--".toList ++ content ++ "-->".toList
  | .special kind content => special kind content

/-- The markup of sibling nodes. -/
def nodes (parent : Text) : List Node → Text
  | [] => []
  | first :: rest => node parent first ++ nodes parent rest

end

/-- The contents of an element that holds text only: bare texts, and the markup of elements. -/
def contents : List Node → Text
  | [] => []
  | .element tag given children :: rest => node [] (.element tag given children) ++ contents rest
  | .text content :: rest => content ++ contents rest
  | .comment content :: rest => content ++ contents rest
  | .special _ content :: rest => content ++ contents rest

end HtmlJsx.Source
