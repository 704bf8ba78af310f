import HtmlJsx.Proofs.Rendering

/-!
# Where text is preformatted

The mode in which text is drawn is one flag of the canvas.  It is raised where
a preformatted element starts and lowered where one ends, so it does not
follow the nesting of the tree: after a preformatted element inside another
the flag is down, although the outer one is still open.

A place in a tree is given by its ancestors from the outermost to the parent,
each with its children on either side of the way down.  Drawing a tree passes
through every place in it: it reaches the place, draws the node there, and
resumes.  The flag on the canvas that reaches a place is raised exactly if
some ancestor is preformatted and no preformatted element has ended inside
that ancestor before the place.
-/

namespace HtmlJsx.Preformatted

open Outcome

/-! ## Places -/

/-- An element around a place, with its children before and after the way to the place. -/
structure Ancestor where
  tag : Text
  attributes : Attributes := []
  before : List Node := []
  after : List Node := []

/-- The children of an ancestor, with a node on the way to the place. -/
def Ancestor.childrenWith (ancestor : Ancestor) (node : Node) : List Node :=
  ancestor.before ++ node :: ancestor.after

/-- The tree that has a node at a place. -/
def fill : List Ancestor → Node → Node
  | [], node => node
  | ancestor :: inner, node =>
    .element ancestor.tag ancestor.attributes (ancestor.childrenWith (fill inner node))

/-- The name of the parent at a place, given that of the outermost ancestor's parent. -/
def parentAt (parent : Option Text) : List Ancestor → Option Text
  | [] => parent
  | ancestor :: inner => parentAt (some ancestor.tag) inner

/-- Draw what comes before a node at a place. -/
def reach (unit : Text) (node : Node) : List Ancestor → Canvas → Except Interruption Canvas
  | [], canvas => .ok canvas
  | ancestor :: inner, canvas => do
    let opened ← Canvas.openElement ancestor.tag ancestor.attributes
      (ancestor.childrenWith (fill inner node)) canvas
    let begun ← Canvas.drawNodes unit (some ancestor.tag) ancestor.before opened.deeper
    reach unit node inner begun

/-- Draw what comes after a node at a place. -/
def resume (unit : Text) (node : Node) : List Ancestor → Canvas → Except Interruption Canvas
  | [], canvas => .ok canvas
  | ancestor :: inner, canvas => do
    let within ← resume unit node inner canvas
    let filled ← Canvas.drawNodes unit (some ancestor.tag) ancestor.after within
    return Canvas.closeElement unit ancestor.tag (ancestor.childrenWith (fill inner node))
      filled.shallower

theorem drawNodes_append (unit : Text) (parent : Option Text) (left right : List Node)
    (canvas : Canvas) :
    Canvas.drawNodes unit parent (left ++ right) canvas =
      Canvas.drawNodes unit parent left canvas >>= Canvas.drawNodes unit parent right := by
  induction left generalizing canvas with
  | nil => rfl
  | cons first rest induction =>
    rw [List.cons_append, Canvas.drawNodes, Canvas.drawNodes, bind_assoc]
    congr 1
    funext drawn
    exact induction drawn

theorem drawNodes_childrenWith (unit : Text) (parent : Option Text) (ancestor : Ancestor)
    (node : Node) (canvas : Canvas) :
    Canvas.drawNodes unit parent (ancestor.childrenWith node) canvas =
      Canvas.drawNodes unit parent ancestor.before canvas >>= fun begun =>
        Canvas.drawNode unit parent node begun >>=
          Canvas.drawNodes unit parent ancestor.after := by
  rw [Ancestor.childrenWith, drawNodes_append]
  rfl

/-- Drawing a tree reaches each place in it, draws the node there, and resumes. -/
theorem drawNode_fill (unit : Text) (node : Node) (place : List Ancestor)
    (parent : Option Text) (canvas : Canvas) :
    Canvas.drawNode unit parent (fill place node) canvas =
      reach unit node place canvas >>= fun reached =>
        Canvas.drawNode unit (parentAt parent place) node reached >>=
          resume unit node place := by
  induction place generalizing parent canvas with
  | nil => exact (bind_pure _).symm
  | cons ancestor inner induction =>
    rw [fill, Canvas.drawNode, reach, bind_assoc]
    congr 1
    funext opened
    rw [drawNodes_childrenWith, bind_assoc, bind_assoc]
    congr 1
    funext begun
    rw [induction, bind_assoc, bind_assoc]
    congr 1
    funext reached
    rw [bind_assoc]
    rfl

/-- Draw what comes before a node at a place in a container, which is left out or drawn itself. -/
def arrive (unit : Text) (node : Node) (container : Ancestor) (inner : List Ancestor) :
    Except Interruption Canvas :=
  let empty : Canvas := {}
  if Conversion.hasOneTopLevel (container.childrenWith (fill inner node)) then do
    let begun ← Canvas.drawNodes unit (some container.tag) container.before empty.deeper
    reach unit node inner begun
  else
    reach unit node (container :: inner)
      (empty.write (Text.copies Conversion.bodyLevels unit)).deeper

/-- Draw what comes after a node at a place in a container. -/
def depart (unit : Text) (node : Node) (container : Ancestor) (inner : List Ancestor)
    (canvas : Canvas) : Except Interruption Canvas :=
  if Conversion.hasOneTopLevel (container.childrenWith (fill inner node)) then do
    let within ← resume unit node inner canvas
    let filled ← Canvas.drawNodes unit (some container.tag) container.after within
    return filled.shallower
  else
    resume unit node (container :: inner) canvas

/-- Drawing a container passes through every place in it. -/
theorem drawContainer_fill (unit : Text) (node : Node) (container : Ancestor)
    (inner : List Ancestor) :
    Conversion.drawContainer unit (fill (container :: inner) node) {} =
      arrive unit node container inner >>= fun reached =>
        Canvas.drawNode unit (parentAt (some container.tag) inner) node reached >>=
          depart unit node container inner := by
  rw [Conversion.drawContainer]
  have children : (fill (container :: inner) node).children =
      container.childrenWith (fill inner node) := rfl
  rw [children]
  by_cases alone : Conversion.hasOneTopLevel (container.childrenWith (fill inner node)) = true
  · have leaving : depart unit node container inner = fun canvas => do
        let within ← resume unit node inner canvas
        let filled ← Canvas.drawNodes unit (some container.tag) container.after within
        return filled.shallower := by
      funext canvas
      rw [depart, if_pos alone]
    rw [if_pos alone, arrive, if_pos alone, leaving, Canvas.drawChildren, children,
      drawNodes_childrenWith, bind_assoc, bind_assoc]
    congr 1
    funext begun
    rw [drawNode_fill, bind_assoc, bind_assoc]
    congr 1
    funext reached
    rw [bind_assoc]
    rfl
  · have leaving : depart unit node container inner = resume unit node (container :: inner) := by
      funext canvas
      rw [depart, if_neg alone]
    rw [if_neg alone, arrive, if_neg alone, leaving]
    exact drawNode_fill unit node (container :: inner) none _

/-! ## The flag at a place -/

mutual

/-- Whether a node is a preformatted element or has one below it. -/
def hasPre : Node → Bool
  | .element tag _ children => Rendering.isPre tag || hasPreBelow children
  | .text _ => false
  | .comment _ => false
  | .special _ _ => false

/-- Whether there is a preformatted element among nodes or below them. -/
def hasPreBelow : List Node → Bool
  | [] => false
  | node :: rest => hasPre node || hasPreBelow rest

end

mutual

/-- A node keeps the flag raised if there is no preformatted element in it. -/
theorem flagAfter_eq (inPre : Bool) :
    (node : Node) → Rendering.flagAfter inPre node = (inPre && !hasPre node)
  | .element tag _ children => by
    rw [Rendering.flagAfter, hasPre, flagAfterAll_eq inPre children, Bool.not_or,
      Bool.and_left_comm]
  | .text _ => (Bool.and_true inPre).symm
  | .comment _ => (Bool.and_true inPre).symm
  | .special _ _ => (Bool.and_true inPre).symm

theorem flagAfterAll_eq (inPre : Bool) :
    (nodes : List Node) → Rendering.flagAfterAll inPre nodes = (inPre && !hasPreBelow nodes)
  | [] => (Bool.and_true inPre).symm
  | first :: rest => by
    rw [Rendering.flagAfterAll, hasPreBelow, flagAfter_eq inPre first, flagAfterAll_eq _ rest,
      Bool.not_or, Bool.and_assoc]

end

theorem inPre_of_drawNodes {unit : Text} (blank : unit.isBlank = true) {parent : Option Text}
    {nodes : List Node} {canvas drawn : Canvas}
    (succeeded : Canvas.drawNodes unit parent nodes canvas = .ok drawn) :
    drawn.inPre = (canvas.inPre && !hasPreBelow nodes) := by
  obtain ⟨written, -, rfl⟩ := Rendering.extended_of_drawNodes blank succeeded
  exact flagAfterAll_eq canvas.inPre nodes

theorem inPre_of_openElement {tag : Text} {attributes : Attributes} {children : List Node}
    {canvas opened : Canvas}
    (succeeded : Canvas.openElement tag attributes children canvas = .ok opened) :
    opened.inPre = (canvas.inPre || Rendering.isPre tag) := by
  rw [Rendering.openElement_eq] at succeeded
  obtain ⟨start, -, rfl⟩ := map_eq_ok_iff.mp succeeded
  rfl

/-- Whether no preformatted element has ended in an ancestor before the way to the place. -/
def Ancestor.isClear (ancestor : Ancestor) : Bool :=
  !hasPreBelow ancestor.before

/-- The flag at a place, given the flag before its outermost ancestor. -/
def flagAt (inPre : Bool) : List Ancestor → Bool
  | [] => inPre
  | ancestor :: inner =>
    flagAt ((inPre || Rendering.isPre ancestor.tag) && ancestor.isClear) inner

theorem inPre_of_reach {unit : Text} (blank : unit.isBlank = true) {node : Node}
    {place : List Ancestor} {canvas reached : Canvas}
    (arrived : reach unit node place canvas = .ok reached) :
    reached.inPre = flagAt canvas.inPre place := by
  induction place generalizing canvas with
  | nil =>
    cases arrived
    rfl
  | cons ancestor inner induction =>
    rw [reach, bind_eq_ok_iff] at arrived
    obtain ⟨opened, opens, arrived⟩ := arrived
    obtain ⟨begun, begins, arrived⟩ := bind_eq_ok_iff.mp arrived
    have raised := inPre_of_drawNodes blank begins
    rw [Canvas.deeper, inPre_of_openElement opens] at raised
    rw [induction arrived, flagAt, raised, Ancestor.isClear]

/-- Whether some ancestor is preformatted and no preformatted element has ended in it before. -/
def InsidePre (place : List Ancestor) : Prop :=
  ∃ outer ancestor inner, place = outer ++ ancestor :: inner ∧
    Rendering.isPre ancestor.tag = true ∧ ∀ passed ∈ ancestor :: inner, passed.isClear = true

theorem not_insidePre_nil : ¬ InsidePre [] := by
  rintro ⟨outer, ancestor, inner, split, -⟩
  simp at split

theorem insidePre_cons_iff {ancestor : Ancestor} {inner : List Ancestor} :
    InsidePre (ancestor :: inner) ↔
      (Rendering.isPre ancestor.tag = true ∧
        ∀ passed ∈ ancestor :: inner, passed.isClear = true) ∨ InsidePre inner := by
  constructor
  · rintro ⟨outer, found, rest, split, pre, clear⟩
    cases outer with
    | nil =>
      obtain ⟨rfl, rfl⟩ := List.cons.inj split
      exact .inl ⟨pre, clear⟩
    | cons first outer =>
      obtain ⟨-, split⟩ := List.cons.inj split
      exact .inr ⟨outer, found, rest, split, pre, clear⟩
  · rintro (⟨pre, clear⟩ | ⟨outer, found, rest, rfl, pre, clear⟩)
    · exact ⟨[], ancestor, inner, rfl, pre, clear⟩
    · exact ⟨ancestor :: outer, found, rest, rfl, pre, clear⟩

/-- A raised flag comes from outside and has been kept, or was raised by an ancestor and kept. -/
theorem flagAt_eq_true_iff {inPre : Bool} {place : List Ancestor} :
    flagAt inPre place = true ↔
      (inPre = true ∧ ∀ passed ∈ place, passed.isClear = true) ∨ InsidePre place := by
  -- The flag that an ancestor leaves is the one its inner places start with.
  induction place generalizing inPre with
  | nil => simp [flagAt, not_insidePre_nil]
  | cons ancestor inner induction =>
    rw [flagAt, induction, insidePre_cons_iff, List.forall_mem_cons, Bool.and_eq_true,
      Bool.or_eq_true]
    constructor
    · rintro (⟨⟨outside | pre, clear⟩, others⟩ | inside)
      · exact .inl ⟨outside, clear, others⟩
      · exact .inr (.inl ⟨pre, clear, others⟩)
      · exact .inr (.inr inside)
    · rintro (⟨outside, clear, others⟩ | ⟨pre, clear, others⟩ | inside)
      · exact .inl ⟨⟨.inl outside, clear⟩, others⟩
      · exact .inl ⟨⟨.inr pre, clear⟩, others⟩
      · exact .inr inside

/-- The ancestors of a place that are drawn: all of them, or all but the container. -/
def drawnAncestors (node : Node) (container : Ancestor) (inner : List Ancestor) :
    List Ancestor :=
  if Conversion.hasOneTopLevel (container.childrenWith (fill inner node)) then inner
  else container :: inner

theorem inPre_of_arrive {unit : Text} (blank : unit.isBlank = true) {node : Node}
    {container : Ancestor} {inner : List Ancestor} {reached : Canvas}
    (arrived : arrive unit node container inner = .ok reached) :
    reached.inPre = true ↔ InsidePre (drawnAncestors node container inner) := by
  have lowered {place : List Ancestor} : flagAt false place = true ↔ InsidePre place := by
    rw [flagAt_eq_true_iff]
    constructor
    · rintro (⟨wrong, -⟩ | inside)
      · cases wrong
      · exact inside
    · exact .inr
  rw [arrive] at arrived
  rw [drawnAncestors]
  split at arrived
  · next alone =>
    -- The start tag of the container is not drawn, so nothing has raised the flag.
    obtain ⟨begun, begins, arrived⟩ := bind_eq_ok_iff.mp arrived
    have down : begun.inPre = false := inPre_of_drawNodes blank begins
    rw [if_pos alone, inPre_of_reach blank arrived, down, lowered]
  · next wrapped =>
    rw [if_neg wrapped, inPre_of_reach blank arrived]
    exact lowered

/-! ## The mode of a text -/

/-- Draw a text that is not preformatted. -/
def drawFlowing (unit content : Text) (canvas : Canvas) : Except Interruption Canvas :=
  if content.contains '\n' then do
    let lineBreak ← canvas.orStop (canvas.lineBreak unit)
    return canvas.write (Passage.running lineBreak content)
  else
    .ok (canvas.write (Passage.guarded content))

/--
Drawing a container reaches each text in it, and draws it in preformatted mode
exactly if it stands inside a preformatted element in which no preformatted
element has ended before it.
-/
theorem text_preformatted_iff (options : Options) (container : Ancestor) (inner : List Ancestor)
    (content : Text)
    (shown : ((parentAt (some container.tag) inner).any fun tag =>
      Property.movesContents (ElementName.toJsx tag)) = false)
    {reached : Canvas}
    (arrived : arrive options.indent (.text content) container inner = .ok reached) :
    (Conversion.drawContainer options.indent (fill (container :: inner) (.text content)) {} =
      Canvas.drawNode options.indent (parentAt (some container.tag) inner) (.text content)
        reached >>= depart options.indent (.text content) container inner) ∧
    (Canvas.drawNode options.indent (parentAt (some container.tag) inner) (.text content) reached =
      if reached.inPre then .ok (reached.write (Passage.preformatted content))
      else drawFlowing options.indent content reached) ∧
    (reached.inPre = true ↔ InsidePre (drawnAncestors (.text content) container inner)) := by
  refine ⟨?_, ?_, inPre_of_arrive options.indent_blank arrived⟩
  · rw [drawContainer_fill, arrived]
    rfl
  · rw [Canvas.drawNode, Canvas.beginNode, Canvas.drawText, shown]
    · rfl
    · intro tag attributes children wrong
      cases wrong

/-- A container in which a preformatted element has ended. -/
def afterPre : Ancestor where
  tag := Fragment.containerTag
  before := [.element "pre".toList [] [.text "x".toList]]

/-- A preformatted element and one inside it on the way to a text. -/
def boldInPre : List Ancestor :=
  [{ tag := "pre".toList }, { tag := "b".toList, before := [.text " ".toList] }]

theorem text_preformatted_in_bold :
    ∃ reached, arrive "  ".toList (.text " y".toList) afterPre boldInPre = .ok reached ∧
      reached.inPre = true ∧
      InsidePre (drawnAncestors (.text " y".toList) afterPre boldInPre) := by
  have raised : (arrive "  ".toList (.text " y".toList) afterPre boldInPre).toOption.map
      Canvas.inPre = some true := by
    decide +kernel
  cases arrived : arrive "  ".toList (.text " y".toList) afterPre boldInPre with
  | error interruption =>
    rw [arrived] at raised
    cases raised
  | ok reached =>
    rw [arrived] at raised
    have inPre : reached.inPre = true := Option.some.inj raised
    obtain ⟨-, -, inside⟩ :=
      text_preformatted_iff {} afterPre boldInPre " y".toList (by decide +kernel) arrived
    exact ⟨reached, rfl, inPre, inside.mp inPre⟩

/-- A preformatted element with another one before the place. -/
def nestedPre : Ancestor where
  tag := "pre".toList
  before := [.element "pre".toList [] [.text "a".toList]]

/-- After an inner preformatted element, text of the outer one is not preformatted. -/
theorem nested_pre_lowers_flag :
    Rendering.isPre nestedPre.tag = true ∧
      (arrive "  ".toList (.text "  b".toList) { tag := Fragment.containerTag }
        [nestedPre]).toOption.map Canvas.inPre = some false ∧
      (Conversion.convert {} "<pre><pre>a</pre>  b</pre>".toList).toOption.map Canvas.output =
        some "<pre><pre>a</pre>  b</pre>\n".toList := by
  refine ⟨?_, ?_, ?_⟩
  · decide +kernel
  · decide +kernel
  · decide +kernel

end HtmlJsx.Preformatted
