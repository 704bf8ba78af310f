import HtmlJsx.Dom.Node

/-!
# From tokens to trees

Tokens are put together with a stack of open elements.  Characters are
gathered until another token ends their run.  An end tag closes the nearest
open element of its name together with everything opened inside it, and
counts for nothing if there is none.  Void elements are closed where they
start; an end tag that follows one later is ignored.
-/

namespace HtmlJsx

/-- An element whose end has not been seen, with the children it has so far. -/
structure OpenElement where
  tag : Text
  attributes : Attributes
  children : List Node

/-- The node of an open element, closed as it stands. -/
def OpenElement.close (element : OpenElement) : Node :=
  .element element.tag element.attributes element.children

/-- A tree under construction. -/
structure Builder where
  /-- Finished top-level nodes. -/
  roots : List Node := []
  /-- Open elements, the innermost first. -/
  opened : List OpenElement := []
  /-- The characters of the current run. -/
  pending : Text := []
  /-- Void elements whose end tags are still to be ignored. -/
  ignored : List Text := []

namespace Builder

/-- Add a finished node to the innermost open element. -/
def add (builder : Builder) (node : Node) : Builder :=
  match builder.opened with
  | [] => { builder with roots := builder.roots ++ [node] }
  | element :: outer =>
    { builder with opened := { element with children := element.children ++ [node] } :: outer }

@[simp]
theorem pending_add (builder : Builder) (node : Node) :
    (builder.add node).pending = builder.pending := by
  rw [add]
  split <;> rfl

@[simp]
theorem ignored_add (builder : Builder) (node : Node) :
    (builder.add node).ignored = builder.ignored := by
  rw [add]
  split <;> rfl

/-- End the current run of characters. -/
def flush (builder : Builder) : Builder :=
  if builder.pending.isEmpty then
    builder
  else
    { builder.add (.text builder.pending) with pending := [] }

@[simp]
theorem pending_flush (builder : Builder) : builder.flush.pending = [] := by
  rw [flush]
  split
  · next empty => exact List.isEmpty_iff.mp empty
  · rfl

@[simp]
theorem ignored_flush (builder : Builder) : builder.flush.ignored = builder.ignored := by
  rw [flush]
  split
  · rfl
  · exact ignored_add builder _

/-- Close the innermost open element. -/
def closeInnermost (builder : Builder) : Builder :=
  match builder.opened with
  | [] => builder
  | element :: outer => { builder with opened := outer }.add element.close

/-- Close a number of open elements, the innermost first. -/
def closeMany : Nat → Builder → Builder
  | 0, builder => builder
  | count + 1, builder => closeMany count builder.closeInnermost

/-- How many elements the nearest open element of a name takes with it when it is closed. -/
def depthOf? (tag : Text) : List OpenElement → Option Nat
  | [] => none
  | element :: outer => if element.tag = tag then some 1 else (depthOf? tag outer).map (· + 1)

/-- Close the nearest open element of a name. -/
def close (builder : Builder) (tag : Text) : Builder :=
  let ready := builder.flush
  match depthOf? tag ready.opened with
  | none => ready
  | some depth => closeMany depth ready

/-- The first of the attributes of each name. -/
def firstOfEach : Attributes → Attributes
  | [] => []
  | (name, value) :: rest => (name, value) :: (firstOfEach rest).filter (·.1 != name)

/-- Open an element. -/
def openElement (builder : Builder) (tag : Text) (attributes : Attributes) : Builder :=
  let ready := builder.flush
  { ready with opened := ⟨tag, firstOfEach attributes, []⟩ :: ready.opened }

/--
Take up one token.  A tag that closes its element does so whatever is still to
be ignored; only an end tag that is written makes up for a void element.
-/
def take (builder : Builder) : Token → Builder
  | .text characters => { builder with pending := builder.pending ++ characters }
  | .start tag attributes =>
    let opened := builder.openElement tag attributes
    if voidElements.contains tag then
      { opened.closeInnermost with ignored := tag :: opened.ignored }
    else
      opened
  | .selfClosed tag attributes => (builder.openElement tag attributes).closeInnermost
  | .stop tag =>
    if builder.ignored.contains tag then
      { builder with ignored := builder.ignored.erase tag }
    else
      builder.close tag
  | .comment content => builder.flush.add (.comment content)
  | .doctype content => builder.flush.add (.special .doctype content)
  | .instruction content => builder.flush.add (.special .instruction content)
  | .cdata content => builder.flush.add (.special .cdata content)
  | .declaration content => builder.flush.add (.special .declaration content)

/-- The finished trees: everything still open is closed. -/
def finish (builder : Builder) : List Node :=
  (closeMany builder.flush.opened.length builder.flush).roots

end Builder

/-- The trees that some tokens describe. -/
def Node.ofTokens (tokens : List Token) : List Node :=
  (tokens.foldl Builder.take {}).finish

end HtmlJsx
