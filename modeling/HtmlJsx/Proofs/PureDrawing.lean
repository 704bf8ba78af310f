import HtmlJsx.Proofs.Rendering

/-!
# Drawing only appends

Closing an element takes an indent unit off the end of everything written so
far.  The unit consists of blanks, and the bracket that opens the element is
none, so what was there before the element is safe.  Whatever a canvas holds,
drawing leaves it in place and adds the rendering, which knows nothing of it,
and the renderings of siblings stand side by side.
-/

namespace HtmlJsx.Rendering

open Outcome

/-- An element is drawn by opening it, drawing its children one level deeper, and closing it. -/
theorem drawNode_element_eq_ok {unit : Text} {parent : Option Text} {tag : Text}
    {attributes : Attributes} {children : List Node} {canvas after : Canvas}
    (returned : Canvas.drawNode unit parent (.element tag attributes children) canvas =
      .ok after) :
    ∃ opened filled, Canvas.openElement tag attributes children canvas = .ok opened ∧
      Canvas.drawNodes unit (some tag) children opened.deeper = .ok filled ∧
      after = Canvas.closeElement unit tag children filled.shallower := by
  rw [Canvas.drawNode, bind_eq_ok_iff] at returned
  obtain ⟨opened, opening, returned⟩ := returned
  obtain ⟨filled, filling, closed⟩ := bind_eq_ok_iff.mp returned
  exact ⟨opened, filled, opening, filling, (Except.ok.inj closed).symm⟩

theorem extended_of_openElement {tag : Text} {attributes : Attributes} {children : List Node}
    {canvas opened : Canvas}
    (returned : Canvas.openElement tag attributes children canvas = .ok opened) :
    ∃ start, extended canvas (canvas.inPre || isPre tag) [] ('<' :: start) = opened := by
  rw [openElement_eq, map_eq_ok_iff] at returned
  obtain ⟨start, started, rfl⟩ := returned
  obtain ⟨properties, -, rfl⟩ := startTag_eq_ok (orStop_eq_ok_iff.mp started)
  exact ⟨_, rfl⟩

/-- When an element is about to be closed, all that it has written begins with its bracket. -/
theorem extended_of_filled {unit : Text} (blank : unit.isBlank = true) {tag : Text}
    {attributes : Attributes} {children : List Node} {canvas opened filled : Canvas}
    (opening : Canvas.openElement tag attributes children canvas = .ok opened)
    (filling : Canvas.drawNodes unit (some tag) children opened.deeper = .ok filled) :
    ∃ inPre given inside, filled.shallower = extended canvas inPre given ('<' :: inside) := by
  obtain ⟨start, rfl⟩ := extended_of_openElement opening
  obtain ⟨written, -, rfl⟩ := extended_of_drawNodes blank filling
  refine ⟨flagAfterAll (canvas.inPre || isPre tag) children, warningsBelow children,
    start ++ written, ?_⟩
  simp [extended, Canvas.deeper, Canvas.shallower]

/-- Siblings are rendered one by one, each with the flag that those before it leave. -/
theorem nodes_eq_flatten {unit : Text} {level : Int} {parent : Option Text} {inPre : Bool}
    {drawn : List Node} {written : Text}
    (rendered : nodes unit level parent inPre drawn = .ok written) :
    ∃ parts : List Text, written = parts.flatten ∧ parts.length = drawn.length ∧
      ∀ index sibling, drawn[index]? = some sibling → ∃ part, parts[index]? = some part ∧
        node unit level parent (flagAfterAll inPre (drawn.take index)) sibling = .ok part := by
  induction drawn generalizing inPre written with
  | nil =>
    obtain rfl := Except.ok.inj rendered
    exact ⟨[], rfl, rfl, nofun⟩
  | cons first rest induction =>
    rw [nodes, bind_eq_ok_iff] at rendered
    obtain ⟨before, renderedFirst, rendered⟩ := rendered
    obtain ⟨after, renderedRest, joined⟩ := bind_eq_ok_iff.mp rendered
    obtain rfl := Except.ok.inj joined
    obtain ⟨parts, rfl, same, each⟩ := induction renderedRest
    refine ⟨before :: parts, rfl, by simp [same], ?_⟩
    intro index sibling found
    cases index with
    | zero =>
      obtain rfl := Option.some.inj found
      exact ⟨before, rfl, renderedFirst⟩
    | succ index => exact each index sibling found

/--
Whatever a canvas holds, at whatever level and with whatever flag.  Drawing a
node returns exactly if the node has a rendering, and then it leaves what was
there, adds the rendering and comes back to its level.  When an element is
closed, everything before its own bracket is still there, and nothing of it is
taken away.  The renderings of siblings are added one after the other.
-/
theorem drawing_appends (options : Options) (parent : Option Text) (canvas : Canvas) :
    (∀ drawn written, node options.indent canvas.level parent canvas.inPre drawn = .ok written ↔
      ∃ after, Canvas.drawNode options.indent parent drawn canvas = .ok after ∧
        after.output = canvas.output ++ written ∧ after.level = canvas.level) ∧
    (∀ tag attributes children after,
      Canvas.drawNode options.indent parent (.element tag attributes children) canvas = .ok after →
        ∃ opened filled inside,
          Canvas.openElement tag attributes children canvas = .ok opened ∧
          Canvas.drawNodes options.indent (some tag) children opened.deeper = .ok filled ∧
          after = Canvas.closeElement options.indent tag children filled.shallower ∧
          filled.output = canvas.output ++ '<' :: inside ∧
          after.output = canvas.output ++
            '<' :: (Text.trimSuffix inside options.indent ++ endTag tag children)) ∧
    (∀ drawn after, Canvas.drawNodes options.indent parent drawn canvas = .ok after →
      ∃ parts : List Text, after.output = canvas.output ++ parts.flatten ∧
        after.level = canvas.level ∧ parts.length = drawn.length ∧
        ∀ index sibling, drawn[index]? = some sibling → ∃ part, parts[index]? = some part ∧
          node options.indent canvas.level parent
            (flagAfterAll canvas.inPre (drawn.take index)) sibling = .ok part) := by
  refine ⟨?_, ?_, ?_⟩
  · intro drawn written
    rw [← drawNode_eq_ok_iff options.indent_blank]
    constructor
    · rintro ⟨after, returned, output⟩
      obtain ⟨_, -, rfl⟩ := extended_of_drawNode options.indent_blank returned
      exact ⟨_, returned, output, rfl⟩
    · rintro ⟨after, returned, output, -⟩
      exact ⟨after, returned, output⟩
  · intro tag attributes children after returned
    obtain ⟨opened, filled, opening, filling, rfl⟩ := drawNode_element_eq_ok returned
    obtain ⟨inPre, given, inside, shape⟩ :=
      extended_of_filled options.indent_blank opening filling
    refine ⟨opened, filled, inside, opening, filling, rfl, ?_, ?_⟩
    · exact (congrArg Canvas.output shape).trans (output_extended _ _ _ _)
    · rw [shape, closeElement_extended options.indent_blank, output_extended,
        ← List.nil_append ('<' :: inside),
        Text.trimSuffix_append_solid options.indent_blank (by decide), List.nil_append,
        List.cons_append]
  · intro drawn after returned
    obtain ⟨written, rendered, rfl⟩ := extended_of_drawNodes options.indent_blank returned
    obtain ⟨parts, rfl, same, each⟩ := nodes_eq_flatten rendered
    exact ⟨parts, output_extended _ _ _ _, rfl, same, each⟩

/-- A canvas that ends with more blanks than a unit has. -/
def blankEnded : Canvas where
  backward := "    x".toList
  level := 3

/--
On a canvas that ends with blanks, an element that consists of a line break: the
unit that its closing takes away is one of its own.
-/
theorem drawing_appends_blankEnded :
    ∃ after inside written,
      Canvas.drawNode "  ".toList none (.element "p".toList [] [.text "\n".toList]) blankEnded =
        .ok after ∧
      node "  ".toList 3 none false (.element "p".toList [] [.text "\n".toList]) = .ok written ∧
      after.output = "x    ".toList ++ written ∧ after.level = 3 ∧
      written = '<' :: (Text.trimSuffix inside "  ".toList ++ "</p>".toList) := by
  have rendered : (node "  ".toList 3 none false
      (.element "p".toList [] [.text "\n".toList])).toOption.isSome = true := by
    decide +kernel
  obtain ⟨written, shown⟩ : ∃ written, node "  ".toList 3 none false
      (.element "p".toList [] [.text "\n".toList]) = .ok written := by
    cases found : node "  ".toList 3 none false (.element "p".toList [] [.text "\n".toList]) with
    | error problem =>
      rw [found] at rendered
      cases rendered
    | ok written => exact ⟨written, rfl⟩
  obtain ⟨appended, closed, -⟩ := drawing_appends {} none blankEnded
  obtain ⟨after, returned, output, level⟩ := (appended _ written).mp shown
  obtain ⟨opened, filled, inside, -, -, -, -, trimmed⟩ := closed _ _ _ after returned
  refine ⟨after, inside, written, returned, shown, output, level, ?_⟩
  exact List.append_cancel_left (output.symm.trans trimmed)

end HtmlJsx.Rendering
