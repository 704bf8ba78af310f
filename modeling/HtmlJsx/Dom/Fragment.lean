import HtmlJsx.Dom.Builder
import HtmlJsx.Dom.Source
import HtmlJsx.Markup.Lexer
import HtmlJsx.Problem
import HtmlJsx.Text.Quoted

/-!
# Fragments

Reading a fragment gives a container element whose children are the
top-level nodes.  Elements that may hold text only get their contents back
as text, and the newline that directly follows the start tag of a
preformatted element is dropped.

The backends other than the built-in one read a document: its head and the
blanks before its content are dropped, and the contents of the body stand for
the document.  This is a picture of what they make of simple fragments and not
all of their rules, so what does not depend on the reading of markup is stated
for every way of reading it.
-/

namespace HtmlJsx.Fragment

/-- The element that holds the top-level nodes. -/
def containerTag : Text := "div".toList

/-- Elements that hold text only. -/
def textOnlyElements : List Text :=
  ["textarea".toList, "title".toList, "style".toList, "xmp".toList]

/-- Elements that lose a newline at the start of their content. -/
def leadingNewlineElements : List Text :=
  ["pre".toList, "listing".toList, "textarea".toList]

/-- Drop a newline at the start of the first node, and the node if it was nothing else. -/
def dropNewline : List Node → List Node
  | .text ('\n' :: []) :: rest => rest
  | .text ('\n' :: content) :: rest => .text content :: rest
  | nodes => nodes

mutual

/-- Settle a node and all nodes below it. -/
def settle (dropping : Bool) : Node → Node
  | .element tag attributes children =>
    let settled :=
      if textOnlyElements.contains tag && children.any Node.isElement then
        [.text (Source.contents children)]
      else
        settleAll dropping children
    .element tag attributes
      (if dropping && leadingNewlineElements.contains tag then dropNewline settled else settled)
  | node => node

/-- Settle sibling nodes. -/
def settleAll (dropping : Bool) : List Node → List Node
  | [] => []
  | node :: rest => settle dropping node :: settleAll dropping rest

end

/-- Whether a character says nothing before the content of a document. -/
def isDocumentBlank (c : Char) : Bool :=
  c == ' ' || c == '\t' || c == '\n' || c == '\x0c' || c == '\r'

/-- The head of a document and the elements that belong to it even if it is not written. -/
def headElements : List Text :=
  ["head".toList, "base".toList, "link".toList, "meta".toList, "script".toList, "style".toList,
    "title".toList]

/--
The nodes of a document from its content on: blanks at the start, comments,
document types and the elements of the head come before it.
-/
def dropHead : List Node → List Node
  | [] => []
  | .text content :: rest =>
    match content.dropWhile isDocumentBlank with
    | [] => dropHead rest
    | shown => .text shown :: rest
  | .comment _ :: rest => dropHead rest
  | .special .doctype _ :: rest => dropHead rest
  | .element tag attributes children :: rest =>
    if headElements.contains tag then dropHead rest else .element tag attributes children :: rest
  | node :: rest => node :: rest

/-- The content of a document, where an element with a tag, if it is written, is opened. -/
def opened (tag : Text) (nodes : List Node) : List Node × List Node :=
  match dropHead nodes with
  | .element name attributes children :: rest =>
    if name = tag then (children, rest) else (.element name attributes children :: rest, [])
  | rest => (rest, [])

/-- Put a node before others; two runs of text become one. -/
def joinNode (node : Node) (nodes : List Node) : List Node :=
  match node, nodes with
  | .text first, .text second :: rest => .text (first ++ second) :: rest
  | _, _ => node :: nodes

/--
The contents of the body of a document; what follows the body belongs to it.
Elements that a document implies are not added.
-/
def bodyContents (nodes : List Node) : List Node :=
  let (document, afterDocument) := opened "html".toList nodes
  let (body, afterBody) := opened "body".toList document
  (body ++ afterBody ++ afterDocument).foldr joinNode []

/-- The nodes of a document without content: there is no body, and blanks are dropped. -/
def withoutTexts (nodes : List Node) : List Node :=
  nodes.filter fun node => !node.isText

/-- The top-level nodes that a backend makes of a simple fragment; the built-in one, of any. -/
def topLevel (backend : Backend) (nodes : List Node) : List Node :=
  match backend with
  | .builtIn => settleAll true nodes
  | .lxml =>
    settleAll false <|
      if (dropHead nodes).isEmpty && !nodes.any Node.isElement then withoutTexts nodes
      else bodyContents nodes
  | .html5lib => settleAll true (bodyContents nodes)

/-- The introduction to the reason why markup is refused. -/
def refusalNotice : Text :=
  ("The markup you provided was rejected by the parser. Trying a different parser or a " ++
    "different encoding may help.\n\nOriginal exception(s) from parser:\n AssertionError: ").toList

/-- Why markup is refused, as a problem. -/
def refusal (backend : Backend) : MarkupFault → Problem
  | .unnamedSection excerpt =>
    .rejectedMarkup backend
      (refusalNotice ++ "expected name token at ".toList ++ Text.quoted excerpt)
  | .unknownSection keyword =>
    .rejectedMarkup backend (refusalNotice ++ "unknown status keyword ".toList ++
      Text.quoted keyword ++ " in marked section".toList)
  | .tooManyDigits => .fault .value

/-- Read a fragment. -/
def read (backend : Backend) (markup : Text) : Except Problem Node :=
  match Lexer.tokens markup with
  | .error fault => .error (refusal backend fault)
  | .ok tokens => .ok (.element containerTag [] (topLevel backend (Node.ofTokens tokens)))

/-- The backend with a name. -/
def backend (name : Text) : Except Problem Backend :=
  match Backend.ofName? name with
  | some backend => .ok backend
  | none => .error (.unsupportedBackend name)

/-- Read a fragment with the backend of a name. -/
def readNamed (name markup : Text) : Except Problem Node := do
  read (← backend name) markup

end HtmlJsx.Fragment
