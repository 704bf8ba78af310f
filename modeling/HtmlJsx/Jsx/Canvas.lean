import HtmlJsx.Dom.Node
import HtmlJsx.Jsx.Passage
import HtmlJsx.Jsx.Property
import HtmlJsx.Problem
import HtmlJsx.Text.Size

/-!
# Drawing a tree

A canvas holds the output so far, the nesting level, whether a preformatted
element is open, and the warnings given.  Nodes are drawn on it from left to
right: an element is opened, its children are drawn one level deeper, and it
is closed.  Drawing that fails leaves the canvas as it was at that moment.
-/

namespace HtmlJsx

/-- The state of a drawing. -/
structure Canvas where
  /-- The output so far, its last character first. -/
  backward : Text := []
  level : Int := 0
  inPre : Bool := false
  warnings : List Text := []
  deriving Repr

/-- A drawing that failed, with the canvas it left. -/
structure Interruption where
  problem : Problem
  canvas : Canvas
  deriving Repr

namespace Canvas

/-- The output so far. -/
def output (canvas : Canvas) : Text :=
  canvas.backward.reverse

/-- Replace the output. -/
def setOutput (canvas : Canvas) (text : Text) : Canvas :=
  { canvas with backward := text.reverse }

@[simp]
theorem output_setOutput (canvas : Canvas) (text : Text) :
    (canvas.setOutput text).output = text := by
  simp [setOutput, output]

/-- Write at the end of the output. -/
def write (canvas : Canvas) (text : Text) : Canvas :=
  { canvas with backward := text.reverse ++ canvas.backward }

@[simp]
theorem output_write (canvas : Canvas) (text : Text) :
    (canvas.write text).output = canvas.output ++ text := by
  simp [write, output]

/-- Take a unit off the end of the output, if it stands there. -/
def trimUnit (canvas : Canvas) (unit : Text) : Canvas :=
  if !unit.isEmpty && unit.reverse.isPrefixOf canvas.backward then
    { canvas with backward := canvas.backward.drop unit.length }
  else
    canvas

@[simp]
theorem output_trimUnit (canvas : Canvas) (unit : Text) :
    (canvas.trimUnit unit).output = Text.trimSuffix canvas.output unit := by
  have ends : Text.endsWith canvas.output unit =
      (!unit.isEmpty && unit.reverse.isPrefixOf canvas.backward) := by
    simp [Text.endsWith, List.isSuffixOf, output]
  unfold trimUnit Text.trimSuffix
  rw [ends]
  split
  · simp [output, List.reverse_drop]
  · rfl

/-- One level deeper. -/
def deeper (canvas : Canvas) : Canvas :=
  { canvas with level := canvas.level + 1 }

/-- One level up. -/
def shallower (canvas : Canvas) : Canvas :=
  { canvas with level := canvas.level - 1 }

/-- Give a warning. -/
def warn (canvas : Canvas) (message : Text) : Canvas :=
  { canvas with warnings := canvas.warnings ++ [message] }

/-- Go on with a result, or stop with the canvas as it is. -/
def orStop {α : Type} (canvas : Canvas) : Except Problem α → Except Interruption α
  | .ok result => .ok result
  | .error problem => .error ⟨problem, canvas⟩

/-- Copies of a unit; their number must not be negative. -/
def copiesOf (unit : Text) (count : Int) : Except Problem Text :=
  if count < 0 then .error (.negativeCopies count) else .ok (Text.copies count.toNat unit)

/-- Copies of a unit as a text of its own, which must not be too large. -/
def boundedCopiesOf (unit : Text) (count : Int) : Except Problem Text :=
  match Text.copiesFault? count unit with
  | some fault => .error (.fault fault)
  | none => copiesOf unit (if unit.isEmpty then min count 0 else count)

/-- A line break followed by the indentation of the current level. -/
def lineBreak (unit : Text) (canvas : Canvas) : Except Problem Text := do
  return '\n' :: (← copiesOf unit (canvas.level + 2))

/-- Whether an element is written as one tag that closes itself. -/
def isSelfClosing (tag : Text) (children : List Node) : Bool :=
  children.isEmpty || Property.movesContents (ElementName.toJsx tag)

/-- The properties of an element: its attributes, then its contents if they are moved. -/
def properties (tag : Text) (attributes : Attributes) (children : List Node) :
    Except NumberFault (List Text) := do
  let name := ElementName.toJsx tag
  let given ← Property.ofAttributes name attributes
  return given ++ Property.ofContents name (Node.element tag attributes children).textContent

/-- Open an element. -/
def openElement (tag : Text) (attributes : Attributes) (children : List Node) (canvas : Canvas) :
    Except Interruption Canvas := do
  let name := ElementName.toJsx tag
  let properties ← canvas.orStop ((properties tag attributes children).mapError Problem.ofNumber)
  let marked := if name = Property.preElement then { canvas with inPre := true } else canvas
  return marked.write ('<' :: name ++ properties.flatMap (' ' :: ·) ++
    (if isSelfClosing tag children then [] else ['>']))

/-- Close an element; the indentation before its end tag is one unit less. -/
def closeElement (unit : Text) (tag : Text) (children : List Node) (canvas : Canvas) : Canvas :=
  let name := ElementName.toJsx tag
  let closed := (canvas.trimUnit unit).write
    (if isSelfClosing tag children then " />".toList else '<' :: '/' :: name ++ ['>'])
  if name = Property.preElement then { closed with inPre := false } else closed

/-- Draw a text that stands in an element. -/
def drawText (unit : Text) (parent : Option Text) (content : Text) (canvas : Canvas) :
    Except Interruption Canvas :=
  if parent.any fun tag => Property.movesContents (ElementName.toJsx tag) then
    .ok canvas
  else if canvas.inPre then
    .ok (canvas.write (Passage.preformatted content))
  else if content.contains '\n' then do
    let lineBreak ← canvas.orStop (canvas.lineBreak unit)
    return canvas.write (Passage.running lineBreak content)
  else
    .ok (canvas.write (Passage.guarded content))

/-- The warning about a node that cannot be drawn. -/
def unknownNode (kind : SpecialKind) : Text :=
  "Unrecognised node type: ".toList ++ kind.name

/-- Draw what stands before the children of a node. -/
def beginNode (unit : Text) (parent : Option Text) : Node → Canvas → Except Interruption Canvas
  | .element tag attributes children, canvas => openElement tag attributes children canvas
  | .text content, canvas => drawText unit parent content canvas
  | .comment content, canvas => .ok (canvas.write (Passage.comment content))
  | .special kind _, canvas => .ok (canvas.warn (unknownNode kind))

/-- Draw what stands after the children of a node. -/
def endNode (unit : Text) : Node → Canvas → Canvas
  | .element tag _ children, canvas => closeElement unit tag children canvas
  | _, canvas => canvas

mutual

/-- Draw a node. -/
def drawNode (unit : Text) (parent : Option Text) : Node → Canvas → Except Interruption Canvas
  | .element tag attributes children, canvas => do
    let opened ← openElement tag attributes children canvas
    let filled ← drawNodes unit (some tag) children opened.deeper
    return closeElement unit tag children filled.shallower
  | node, canvas => beginNode unit parent node canvas

/-- Draw sibling nodes. -/
def drawNodes (unit : Text) (parent : Option Text) :
    List Node → Canvas → Except Interruption Canvas
  | [], canvas => .ok canvas
  | node :: rest, canvas => do
    let drawn ← drawNode unit parent node canvas
    drawNodes unit parent rest drawn

end

/-- Draw the children of a node one level deeper. -/
def drawChildren (unit : Text) (node : Node) (canvas : Canvas) : Except Interruption Canvas := do
  let filled ← drawNodes unit node.tag? node.children canvas.deeper
  return filled.shallower

end Canvas

end HtmlJsx
