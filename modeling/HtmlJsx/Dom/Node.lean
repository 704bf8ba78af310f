import HtmlJsx.Markup.Token

/-!
# Document trees

A fragment is a tree of elements, runs of text, comments, and special nodes
such as document types, which have no rendering of their own.
-/

namespace HtmlJsx

/-- The kinds of nodes that are neither elements, text nor comments. -/
inductive SpecialKind where
  | doctype
  | cdata
  | instruction
  | declaration
  | foreign (name : Text)
  deriving Repr, DecidableEq

namespace SpecialKind

/-- The name by which a kind is reported. -/
def name : SpecialKind → Text
  | .doctype => "doctype".toList
  | .cdata => "cdata".toList
  | .instruction => "processing-instruction".toList
  | .declaration => "declaration".toList
  | .foreign name => name

/-- The kind with a name. -/
def ofName (name : Text) : SpecialKind :=
  if name = SpecialKind.doctype.name then .doctype
  else if name = SpecialKind.cdata.name then .cdata
  else if name = SpecialKind.instruction.name then .instruction
  else if name = SpecialKind.declaration.name then .declaration
  else .foreign name

end SpecialKind

/-- A node of a document tree. -/
inductive Node where
  | element (tag : Text) (attributes : Attributes) (children : List Node)
  | text (content : Text)
  | comment (content : Text)
  | special (kind : SpecialKind) (content : Text)
  deriving Repr, Inhabited

namespace Node

/-- Whether a node is an element. -/
def isElement : Node → Bool
  | .element _ _ _ => true
  | _ => false

/-- Whether a node is a run of text. -/
def isText : Node → Bool
  | .text _ => true
  | _ => false

theorem eq_text_of_isText {node : Node} (isText : node.isText = true) :
    ∃ content, node = .text content := by
  cases node with
  | text content => exact ⟨content, rfl⟩
  | _ => cases isText

/-- The children of a node; only elements have any. -/
def children : Node → List Node
  | .element _ _ children => children
  | _ => []

/-- The name of an element. -/
def tag? : Node → Option Text
  | .element tag _ _ => some tag
  | _ => none

mutual

/-- The runs of text below an element, in document order. -/
def texts : Node → List Text
  | .element _ _ children => textsBelow children
  | _ => []

/-- The runs of text among some nodes and below them, in document order. -/
def textsBelow : List Node → List Text
  | [] => []
  | .text content :: rest => content :: textsBelow rest
  | node :: rest => texts node ++ textsBelow rest

end

/-- The text below an element, all runs together. -/
def textContent (node : Node) : Text :=
  node.texts.flatten

/-- The value of the first attribute with a name. -/
def attribute? : Node → Text → Option Text
  | .element _ attributes _, name => attributes.lookup name
  | _, _ => none

mutual

/-- A node and all nodes below it in document order, each with the name of its parent. -/
def outline (parent : Option Text) : Node → List (Option Text × Node)
  | .element tag attributes children =>
    (parent, .element tag attributes children) :: outlineAll (some tag) children
  | node => [(parent, node)]

/-- The outlines of sibling nodes. -/
def outlineAll (parent : Option Text) : List Node → List (Option Text × Node)
  | [] => []
  | node :: rest => outline parent node ++ outlineAll parent rest

end

end Node

/-- Elements that have no content and no end tag. -/
def voidElements : List Text :=
  [ "area", "base", "br", "col", "embed", "hr", "img", "input", "keygen", "link", "menuitem",
    "meta", "param", "source", "track", "wbr", "basefont", "bgsound", "command", "frame", "image",
    "isindex", "nextid", "spacer" ].map String.toList

end HtmlJsx
