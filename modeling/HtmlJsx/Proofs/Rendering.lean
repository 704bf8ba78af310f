import HtmlJsx.Proofs.Layout
import HtmlJsx.Proofs.Outcome

/-!
# Drawing as a pure function

Drawing works on a canvas whose output is changed at its end: closing an
element takes one indent unit off everything written so far.  This module
gives the rendering of a node as a function of the node, the level, the tag
of the parent and the preformatted flag alone, and shows that drawing writes
exactly that text after whatever the canvas holds.

The flag is not scoped by the tree.  It is raised where a preformatted
element starts and lowered where one ends, so it is threaded through the
siblings by `flagAfter`.
-/

namespace HtmlJsx.Rendering

open Outcome

/-- Whether an element is preformatted. -/
def isPre (tag : Text) : Bool :=
  ElementName.toJsx tag = Property.preElement

mutual

/-- The preformatted flag after a node, given the flag before it. -/
def flagAfter (inPre : Bool) : Node → Bool
  | .element tag _ children => !isPre tag && flagAfterAll inPre children
  | _ => inPre

/-- The preformatted flag after sibling nodes. -/
def flagAfterAll (inPre : Bool) : List Node → Bool
  | [] => inPre
  | node :: rest => flagAfterAll (flagAfter inPre node) rest

end

mutual

/-- The warnings that a node gives rise to, in document order. -/
def warnings : Node → List Text
  | .element _ _ children => warningsBelow children
  | .special kind _ => [Canvas.unknownNode kind]
  | _ => []

/-- The warnings that sibling nodes give rise to. -/
def warningsBelow : List Node → List Text
  | [] => []
  | node :: rest => warnings node ++ warningsBelow rest

end

/-- The start tag of an element, left open if the element closes itself. -/
def startTag (tag : Text) (attributes : Attributes) (children : List Node) :
    Except Problem Text :=
  ((Canvas.properties tag attributes children).mapError Problem.ofNumber).map fun properties =>
    '<' :: (ElementName.toJsx tag ++ properties.flatMap (' ' :: ·) ++
      if Canvas.isSelfClosing tag children then [] else ['>'])

/-- What closes an element: its end tag, or the end of a tag that closes itself. -/
def endTag (tag : Text) (children : List Node) : Text :=
  if Canvas.isSelfClosing tag children then " />".toList
  else '<' :: '/' :: ElementName.toJsx tag ++ ['>']

/-- A run of text that stands in an element. -/
def text (unit : Text) (level : Int) (parent : Option Text) (inPre : Bool) (content : Text) :
    Except Problem Text :=
  if parent.any fun tag => Property.movesContents (ElementName.toJsx tag) then
    .ok []
  else if inPre then
    .ok (Passage.preformatted content)
  else if content.contains '\n' then
    (Canvas.copiesOf unit (level + 2)).map fun blanks => Passage.running ('\n' :: blanks) content
  else
    .ok (Passage.guarded content)

mutual

/-- The rendering of a node. -/
def node (unit : Text) (level : Int) (parent : Option Text) (inPre : Bool) :
    Node → Except Problem Text
  | .element tag attributes children => do
    let start ← startTag tag attributes children
    let inside ← nodes unit (level + 1) (some tag) (inPre || isPre tag) children
    return Text.trimSuffix (start ++ inside) unit ++ endTag tag children
  | .text content => text unit level parent inPre content
  | .comment content => .ok (Passage.comment content)
  | .special _ _ => .ok []

/-- The renderings of sibling nodes, one after the other. -/
def nodes (unit : Text) (level : Int) (parent : Option Text) (inPre : Bool) :
    List Node → Except Problem Text
  | [] => .ok []
  | first :: rest => do
    let before ← node unit level parent inPre first
    let after ← nodes unit level parent (flagAfter inPre first) rest
    return before ++ after

end

/-! ## The flag is lowered by what it has not raised -/

mutual

/-- Drawing a node never leaves the flag raised if it was down. -/
@[simp]
theorem flagAfter_false : (node : Node) → flagAfter false node = false
  | .element tag _ children => by simp [flagAfter, flagAfterAll_false children]
  | .text _ => rfl
  | .comment _ => rfl
  | .special _ _ => rfl

@[simp]
theorem flagAfterAll_false : (nodes : List Node) → flagAfterAll false nodes = false
  | [] => rfl
  | first :: rest => by
    rw [flagAfterAll, flagAfter_false first]
    exact flagAfterAll_false rest

end

/-! ## Renderings of lists and of elements -/

/-- A start tag is an opening bracket, the name and the properties. -/
theorem startTag_eq_ok {tag : Text} {attributes : Attributes} {children : List Node}
    {start : Text} (started : startTag tag attributes children = .ok start) :
    ∃ properties, Canvas.properties tag attributes children = .ok properties ∧
      start = '<' :: (ElementName.toJsx tag ++ properties.flatMap (' ' :: ·) ++
        if Canvas.isSelfClosing tag children then [] else ['>']) := by
  rw [startTag, map_eq_ok_iff] at started
  obtain ⟨properties, found, rfl⟩ := started
  exact ⟨properties, mapError_eq_ok_iff.mp found, rfl⟩

theorem isBlank_copiesOf {unit blanks : Text} {count : Int} (blank : unit.isBlank = true)
    (copied : Canvas.copiesOf unit count = .ok blanks) : blanks.isBlank = true := by
  rw [Canvas.copiesOf] at copied
  split at copied
  · cases copied
  · cases copied
    exact Text.isBlank_copies blank _

/-- Sibling nodes are rendered part by part, with the flag that the first part leaves. -/
theorem nodes_append_eq_ok_iff {unit : Text} {level : Int} {parent : Option Text} {inPre : Bool}
    {left right : List Node} {written : Text} :
    nodes unit level parent inPre (left ++ right) = .ok written ↔
      ∃ before after, nodes unit level parent inPre left = .ok before ∧
        nodes unit level parent (flagAfterAll inPre left) right = .ok after ∧
        written = before ++ after := by
  induction left generalizing inPre written with
  | nil =>
    constructor
    · intro rendered
      exact ⟨[], written, rfl, rendered, rfl⟩
    · rintro ⟨before, after, empty, rendered, rfl⟩
      cases empty
      exact rendered
  | cons first rest induction =>
    rw [List.cons_append, nodes, nodes, bind_eq_ok_iff]
    constructor
    · rintro ⟨begun, drawn, rendered⟩
      obtain ⟨others, found, joined⟩ := bind_eq_ok_iff.mp rendered
      obtain ⟨before, after, renderedLeft, renderedRight, rfl⟩ := induction.mp found
      obtain rfl := Except.ok.inj joined
      refine ⟨begun ++ before, after, ?_, renderedRight, by simp⟩
      rw [drawn, renderedLeft]
      rfl
    · rintro ⟨before, after, renderedLeft, renderedRight, rfl⟩
      obtain ⟨begun, drawn, rendered⟩ := bind_eq_ok_iff.mp renderedLeft
      obtain ⟨others, found, joined⟩ := bind_eq_ok_iff.mp rendered
      obtain rfl := Except.ok.inj joined
      refine ⟨begun, drawn, ?_⟩
      rw [induction.mpr ⟨others, after, found, renderedRight, rfl⟩]
      simp [bind, Except.bind, pure, Except.pure]

/-- The rendering of an element stands between its first and its last bracket. -/
theorem node_element_eq_ok {unit : Text} (blank : unit.isBlank = true) {level : Int}
    {parent : Option Text} {inPre : Bool} {element : Node} (isElement : element.isElement = true)
    {written : Text} (rendered : node unit level parent inPre element = .ok written) :
    ∃ inside, written = '<' :: inside ++ ['>'] := by
  cases element with
  | element tag attributes children =>
    rw [node, bind_eq_ok_iff] at rendered
    obtain ⟨start, started, rendered⟩ := rendered
    obtain ⟨inside, -, ended⟩ := bind_eq_ok_iff.mp rendered
    obtain rfl := Except.ok.inj ended
    obtain ⟨properties, -, rfl⟩ := startTag_eq_ok started
    rw [List.cons_append, ← List.nil_append ('<' :: _),
      Text.trimSuffix_append_solid blank (by decide), endTag]
    generalize Text.trimSuffix _ unit = trimmed
    split
    · exact ⟨trimmed ++ [' ', '/'], by simp⟩
    · exact ⟨trimmed ++ '<' :: '/' :: ElementName.toJsx tag, by simp⟩
  | _ => cases isElement

/-! ## Drawing writes the rendering -/

/-- The canvas after a text has been written and the flag and the warnings have changed. -/
def extended (canvas : Canvas) (inPre : Bool) (given : List Text) (text : Text) : Canvas where
  backward := text.reverse ++ canvas.backward
  level := canvas.level
  inPre := inPre
  warnings := canvas.warnings ++ given

@[simp]
theorem output_extended (canvas : Canvas) (inPre : Bool) (given : List Text) (text : Text) :
    (extended canvas inPre given text).output = canvas.output ++ text := by
  simp [extended, Canvas.output]

theorem orStop_eq_ok_iff {α : Type} {canvas : Canvas} {result : Except Problem α} {value : α} :
    canvas.orStop result = .ok value ↔ result = .ok value := by
  cases result with
  | error problem => exact ⟨nofun, nofun⟩
  | ok other => exact ⟨fun | rfl => rfl, fun | rfl => rfl⟩

theorem openElement_eq (tag : Text) (attributes : Attributes) (children : List Node)
    (canvas : Canvas) :
    Canvas.openElement tag attributes children canvas =
      (canvas.orStop (startTag tag attributes children)).map
        (extended canvas (canvas.inPre || isPre tag) []) := by
  rw [Canvas.openElement, startTag]
  cases Canvas.properties tag attributes children with
  | error fault => rfl
  | ok properties =>
    by_cases pre : ElementName.toJsx tag = Property.preElement
    · simp [pre, isPre, extended, Canvas.write, Canvas.orStop, Except.map, bind,
        Except.bind, pure, Except.pure]
    · simp [pre, isPre, extended, Canvas.write, Canvas.orStop, Except.map, bind,
        Except.bind, pure, Except.pure]

/-- Taking off a unit is an operation on the output alone. -/
theorem trimUnit_eq (canvas : Canvas) (unit : Text) :
    canvas.trimUnit unit = canvas.setOutput (Text.trimSuffix canvas.output unit) := by
  have outputs : (canvas.trimUnit unit).backward.reverse = Text.trimSuffix canvas.output unit :=
    Canvas.output_trimUnit canvas unit
  rw [Canvas.setOutput, ← outputs, List.reverse_reverse]
  rw [Canvas.trimUnit]
  split <;> rfl

/--
Closing an element changes what was written since its opening bracket and
nothing before that: the bracket is solid, so no indent unit reaches over it.
-/
theorem closeElement_extended {unit : Text} (blank : unit.isBlank = true) (tag : Text)
    (children : List Node) (canvas : Canvas) (inPre : Bool) (given : List Text) (inside : Text) :
    Canvas.closeElement unit tag children (extended canvas inPre given ('<' :: inside)) =
      extended canvas (!isPre tag && inPre) given
        (Text.trimSuffix ('<' :: inside) unit ++ endTag tag children) := by
  have bracket : isBlank '<' = false := by decide
  have trimmed : (extended canvas inPre given ('<' :: inside)).trimUnit unit =
      extended canvas inPre given (Text.trimSuffix ('<' :: inside) unit) := by
    rw [trimUnit_eq, output_extended, Text.trimSuffix_append_solid blank bracket,
      ← List.nil_append ('<' :: inside), Text.trimSuffix_append_solid blank bracket]
    simp [Canvas.setOutput, extended, Canvas.output]
  rw [Canvas.closeElement, trimmed]
  by_cases pre : ElementName.toJsx tag = Property.preElement
  · simp [pre, isPre, endTag, extended, Canvas.write]
  · simp [pre, isPre, endTag, extended, Canvas.write]

theorem drawText_eq (unit : Text) (parent : Option Text) (content : Text) (canvas : Canvas) :
    (Canvas.drawText unit parent content canvas).mapError Interruption.problem =
      (text unit canvas.level parent canvas.inPre content).map
        (extended canvas canvas.inPre []) := by
  rw [Canvas.drawText, text]
  split
  · simp [extended, Except.map]
  · split
    · simp [extended, Except.map, Canvas.write]
    · split
      · rw [Canvas.lineBreak]
        cases Canvas.copiesOf unit (canvas.level + 2) with
        | error problem => rfl
        | ok blanks =>
          simp [extended, Except.map, Canvas.write, Canvas.orStop, bind,
            Except.bind, pure, Except.pure]
      · simp [extended, Except.map, Canvas.write]

mutual

/--
Drawing a node writes its rendering after the output so far, whatever that
is, and comes back to the level it started from.
-/
theorem drawNode_eq {unit : Text} (blank : unit.isBlank = true) (parent : Option Text) :
    (drawn : Node) → (canvas : Canvas) →
      (Canvas.drawNode unit parent drawn canvas).mapError Interruption.problem =
        (node unit canvas.level parent canvas.inPre drawn).map
          (extended canvas (flagAfter canvas.inPre drawn) (warnings drawn))
  | .element tag attributes children, canvas => by
    rw [Canvas.drawNode, node, openElement_eq]
    cases opened : startTag tag attributes children with
    | error problem => rfl
    | ok start =>
      -- The bracket keeps the closing from taking off blanks that were there before.
      obtain ⟨more, rfl⟩ : ∃ more, start = '<' :: more := by
        obtain ⟨properties, -, rfl⟩ := startTag_eq_ok opened
        exact ⟨_, rfl⟩
      let raised := canvas.inPre || isPre tag
      let opened := (extended canvas raised [] ('<' :: more)).deeper
      have inner : (Canvas.drawNodes unit (some tag) children opened).mapError
            Interruption.problem =
          (nodes unit (canvas.level + 1) (some tag) raised children).map
            (extended opened (flagAfterAll raised children) (warningsBelow children)) :=
        drawNodes_eq blank (some tag) children opened
      have filled (inside : Text) :
          (extended opened (flagAfterAll raised children) (warningsBelow children)
            inside).shallower =
          extended canvas (flagAfterAll raised children) (warningsBelow children)
            ('<' :: (more ++ inside)) := by
        simp [opened, extended, Canvas.deeper, Canvas.shallower]
      have lowered : (!isPre tag && flagAfterAll raised children) =
          flagAfter canvas.inPre (.element tag attributes children) := by
        cases pre : isPre tag <;> simp [raised, flagAfter, pre]
      change ((Canvas.drawNodes unit (some tag) children opened) >>= _).mapError _ =
        (nodes unit (canvas.level + 1) (some tag) raised children >>= _).map _
      rw [mapError_bind, inner, bind_map, map_bind]
      congr 1
      funext inside
      rw [filled, closeElement_extended blank, lowered]
      rfl
  | .text content, canvas => by
    simpa [Canvas.drawNode, Canvas.beginNode, node, flagAfter, warnings] using
      drawText_eq unit parent content canvas
  | .comment content, canvas => by
    simp [Canvas.drawNode, Canvas.beginNode, node, flagAfter, warnings, extended, Canvas.write,
      Except.map]
  | .special kind content, canvas => by
    simp [Canvas.drawNode, Canvas.beginNode, node, flagAfter, warnings, extended, Canvas.warn,
      Except.map]

theorem drawNodes_eq {unit : Text} (blank : unit.isBlank = true) (parent : Option Text) :
    (drawn : List Node) → (canvas : Canvas) →
      (Canvas.drawNodes unit parent drawn canvas).mapError Interruption.problem =
        (nodes unit canvas.level parent canvas.inPre drawn).map
          (extended canvas (flagAfterAll canvas.inPre drawn) (warningsBelow drawn))
  | [], canvas => by
    simp [Canvas.drawNodes, nodes, flagAfterAll, warningsBelow, extended, Except.map]
  | first :: rest, canvas => by
    rw [Canvas.drawNodes, nodes, mapError_bind, drawNode_eq blank parent first canvas, bind_map,
      map_bind]
    congr 1
    funext before
    rw [drawNodes_eq blank parent rest, map_bind]
    change Except.map _ (nodes unit canvas.level parent (flagAfter canvas.inPre first) rest) = _
    cases nodes unit canvas.level parent (flagAfter canvas.inPre first) rest with
    | error problem => rfl
    | ok after =>
      simp [Except.map, bind, Except.bind, pure, Except.pure, extended, flagAfterAll,
        warningsBelow]

end

/-- A drawing that returns has written the rendering and changed nothing else but the flag. -/
theorem extended_of_drawNode {unit : Text} (blank : unit.isBlank = true) {parent : Option Text}
    {drawn : Node} {canvas after : Canvas}
    (returned : Canvas.drawNode unit parent drawn canvas = .ok after) :
    ∃ written, node unit canvas.level parent canvas.inPre drawn = .ok written ∧
      extended canvas (flagAfter canvas.inPre drawn) (warnings drawn) written = after := by
  have agrees := drawNode_eq blank parent drawn canvas
  rw [returned] at agrees
  exact map_eq_ok_iff.mp agrees.symm

theorem extended_of_drawNodes {unit : Text} (blank : unit.isBlank = true) {parent : Option Text}
    {drawn : List Node} {canvas after : Canvas}
    (returned : Canvas.drawNodes unit parent drawn canvas = .ok after) :
    ∃ written, nodes unit canvas.level parent canvas.inPre drawn = .ok written ∧
      extended canvas (flagAfterAll canvas.inPre drawn) (warningsBelow drawn) written = after := by
  have agrees := drawNodes_eq blank parent drawn canvas
  rw [returned] at agrees
  exact map_eq_ok_iff.mp agrees.symm

/-- What drawing a node adds to the output is its rendering. -/
theorem drawNode_eq_ok_iff {unit : Text} (blank : unit.isBlank = true) {parent : Option Text}
    {drawn : Node} {canvas : Canvas} {text : Text} :
    (∃ after, Canvas.drawNode unit parent drawn canvas = .ok after ∧
      after.output = canvas.output ++ text) ↔
    node unit canvas.level parent canvas.inPre drawn = .ok text := by
  constructor
  · rintro ⟨after, returned, output⟩
    obtain ⟨written, rendered, rfl⟩ := extended_of_drawNode blank returned
    rw [output_extended] at output
    rw [rendered, List.append_cancel_left output]
  · intro rendered
    have agrees := drawNode_eq blank parent drawn canvas
    rw [rendered] at agrees
    exact ⟨_, mapError_eq_ok_iff.mp agrees, output_extended _ _ _ _⟩

/-! ## The output of a conversion -/

/--
The rendering of a container before it gets its final form: of its children
if they can stand alone, otherwise of the container itself after the
indentation of the place where it stands.
-/
def whole (unit : Text) (container : Node) : Except Problem Text :=
  if Conversion.hasOneTopLevel container.children then
    nodes unit 1 container.tag? false container.children
  else
    (node unit 1 none false container).map (Text.copies Conversion.bodyLevels unit ++ ·)

/-- A conversion gives the final form of the rendering of its container. -/
theorem output_render_eq {unit : Text} (blank : unit.isBlank = true) (container : Node) :
    ((Conversion.render unit container).mapError Interruption.problem).map Canvas.output =
      (whole unit container).map (Conversion.finish unit) := by
  rw [Conversion.render, Conversion.drawContainer, whole]
  split
  · rw [Canvas.drawChildren, mapError_bind, mapError_bind, drawNodes_eq blank]
    change Except.map _ (Except.map _ (nodes unit 1 container.tag? false container.children)
      >>= _ >>= _) = _
    cases nodes unit 1 container.tag? false container.children with
    | error problem => rfl
    | ok rendered =>
      simp [Except.map, bind, Except.bind, pure, Except.pure, extended,
        Canvas.shallower, Canvas.deeper, Canvas.output, Canvas.setOutput]
  · rw [mapError_bind, drawNode_eq blank]
    change Except.map _ (Except.map _ (node unit 1 none false container) >>= _) = _
    cases node unit 1 none false container with
    | error problem => rfl
    | ok rendered =>
      simp [Except.map, bind, Except.bind, pure, Except.pure, extended,
        Canvas.write, Canvas.deeper, Canvas.output, Canvas.setOutput]

/-- The output of a conversion that succeeds. -/
theorem output_of_render {unit : Text} (blank : unit.isBlank = true) {container : Node}
    {canvas : Canvas} (rendered : Conversion.render unit container = .ok canvas) :
    ∃ drawn : Text, whole unit container = .ok drawn ∧
      canvas.output = Conversion.finish unit drawn := by
  have agrees := output_render_eq blank container
  rw [rendered] at agrees
  obtain ⟨drawn, found, output⟩ := map_eq_ok_iff.mp agrees.symm
  exact ⟨drawn, found, output.symm⟩

/-- What is read is a container of fixed name without attributes. -/
theorem container_of_read {backend : Backend} {markup : Text} {container : Node}
    (parsed : Fragment.read backend markup = .ok container) :
    ∃ children, container = .element Fragment.containerTag [] children := by
  rw [Fragment.read] at parsed
  split at parsed
  · cases parsed
  · exact ⟨_, (Except.ok.inj parsed).symm⟩

/-- Converting a fragment that can be read is rendering its container. -/
theorem convert_eq_render {options : Options} {html : Text} {container : Node}
    (parsed : Fragment.read options.backend (Conversion.markup html) = .ok container) :
    Conversion.convert options html = Conversion.render options.indent container := by
  rw [Conversion.convert, Conversion.convertWith, parsed]
  rfl

/-- A conversion that succeeds has read its fragment and has rendered the container. -/
theorem convertWith_eq_ok {read : Text → Except Problem Node} {options : Options} {html : Text}
    {canvas : Canvas} (converted : Conversion.convertWith read options html = .ok canvas) :
    ∃ container, read (Conversion.markup html) = .ok container ∧
      Conversion.render options.indent container = .ok canvas := by
  obtain ⟨container, parsed, rendered⟩ := bind_eq_ok_iff.mp converted
  exact ⟨container, orStop_eq_ok_iff.mp parsed, rendered⟩

end HtmlJsx.Rendering
