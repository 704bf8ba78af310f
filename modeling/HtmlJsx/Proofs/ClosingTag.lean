import HtmlJsx.Proofs.Provenance

/-!
# What the closing of an element takes away

Before an element is closed, one indent unit is taken off the end of the
output, so that its end tag stands one level further out than its contents.
This is meant for indentation, but the end of the output is all that is looked
at.  If the element ends with a line break of running text, at least one whole
unit has been written for that line break, and the unit that is taken away is
layout.  Otherwise a unit at the end of the output is text or belongs to the
start tag, and it is taken away just the same.

So what is taken away is layout exactly if the last character before the
closing is, or nothing is taken away at all.
-/

namespace HtmlJsx

/-- Taking off a unit changes a text exactly if the unit stands at its end. -/
theorem Text.trimSuffix_eq_self_iff {text unit : Text} :
    trimSuffix text unit = text ↔ endsWith text unit = false := by
  constructor
  · intro same
    cases ends : endsWith text unit with
    | false => rfl
    | true =>
      obtain ⟨nonempty, front, rfl⟩ := endsWith_iff.mp ends
      rw [trimSuffix_append nonempty] at same
      exact absurd (List.self_eq_append_right.mp same) nonempty
  · exact trimSuffix_of_not_endsWith

namespace Traced

/-- What taking one unit off the end takes away. -/
def taken (traced : Traced) (unit : Text) : Traced :=
  if Text.endsWith traced.plain unit then traced.drop (traced.length - unit.length) else []

theorem trimSuffix_append_taken (traced : Traced) (unit : Text) :
    traced.trimSuffix unit ++ traced.taken unit = traced := by
  rw [trimSuffix, taken]
  split
  · exact List.take_append_drop _ _
  · exact List.append_nil _

theorem taken_of_not_endsWith {traced : Traced} {unit : Text}
    (ends : Text.endsWith traced.plain unit = false) : traced.taken unit = [] := by
  simp [taken, ends]

theorem plain_taken {traced : Traced} {unit : Text}
    (ends : Text.endsWith traced.plain unit = true) : (traced.taken unit).plain = unit := by
  obtain ⟨-, suffix⟩ := Text.endsWith_iff.mp ends
  rw [taken, if_pos ends, plain_drop, ← length_plain]
  exact (List.suffix_iff_eq_drop.mp suffix).symm

/-- A marked unit that stands at the end is what is taken away. -/
theorem taken_append_of {unit : Text} (nonempty : unit ≠ []) (front : Traced) (origin : Origin) :
    taken (front ++ of origin unit) unit = of origin unit := by
  have whole := trimSuffix_append_taken (front ++ of origin unit) unit
  rw [trimSuffix_append_of nonempty] at whole
  exact List.append_cancel_left whole

/-- Whether the last character belongs to the layout of running text. -/
def endsInLayout (traced : Traced) : Bool :=
  traced.getLast?.any (·.origin.isLayout)

theorem endsInLayout_append {left right : Traced} (nonempty : right ≠ []) :
    endsInLayout (left ++ right) = endsInLayout right := by
  rw [endsInLayout, endsInLayout, List.getLast?_append, List.getLast?_eq_some_getLast nonempty,
    Option.some_or]

theorem endsInLayout_of_forall {traced : Traced} {layout : Bool} (nonempty : traced ≠ [])
    (all : ∀ glyph ∈ traced, glyph.origin.isLayout = layout) : endsInLayout traced = layout := by
  rw [endsInLayout, List.getLast?_eq_some_getLast nonempty, Option.any_some]
  exact all _ (List.getLast_mem nonempty)

/-- Without layout there is none at the end. -/
theorem not_endsInLayout {traced : Traced}
    (none : ∀ glyph ∈ traced, glyph.origin.isLayout = false) : ¬ endsInLayout traced = true := by
  by_cases empty : traced = []
  · rw [empty]
    exact Bool.false_ne_true
  · rw [endsInLayout_of_forall empty none]
    exact Bool.false_ne_true

theorem not_endsInLayout_of {origin : Origin} (other : origin.isLayout = false) (text : Text) :
    ¬ endsInLayout (of origin text) = true := by
  apply not_endsInLayout
  intro glyph member
  rw [origin_of_mem_of member]
  exact other

/-- If layout at the end comes in whole units, taking off a unit takes layout or nothing. -/
theorem taken_isLayout_iff {traced : Traced} {unit : Text} (nonempty : unit ≠ [])
    (whole : endsInLayout traced = true → ∃ opened, of (.layout opened) unit <:+ traced) :
    (∀ glyph ∈ traced.taken unit, glyph.origin.isLayout = true) ↔
      (Text.endsWith traced.plain unit = true → endsInLayout traced = true) := by
  constructor
  · intro layout ends
    have someTaken : traced.taken unit ≠ [] := by
      intro empty
      have shown := plain_taken ends
      rw [empty] at shown
      exact nonempty shown.symm
    rw [← trimSuffix_append_taken traced unit, endsInLayout_append someTaken]
    exact endsInLayout_of_forall someTaken layout
  · intro decided glyph member
    cases ends : Text.endsWith traced.plain unit with
    | false =>
      rw [taken_of_not_endsWith ends] at member
      cases member
    | true =>
      obtain ⟨opened, front, rfl⟩ := whole (decided ends)
      rw [taken_append_of nonempty] at member
      rw [origin_of_mem_of member]
      rfl

end Traced

namespace Provenance

open Outcome Traced

/-! ## Layout comes in whole units -/

/-- Running text that ends with layout ends with a whole line break. -/
theorem lineBreak_suffix_reflow {lineBreak : Text} {opened : Nat} {skipping : Bool} {source : Text}
    (layout : endsInLayout (reflow lineBreak opened skipping source) = true) :
    of (.layout opened) lineBreak <:+ reflow lineBreak opened skipping source := by
  induction source generalizing skipping with
  | nil => cases layout
  | cons c rest induction =>
    rw [reflow] at layout ⊢
    split at layout
    · next skipped =>
      rw [if_pos skipped]
      exact induction layout
    · next shown =>
      rw [if_neg shown]
      split at layout
      · next newline =>
        rw [if_pos newline]
        by_cases empty : reflow lineBreak opened true rest = []
        · simp [empty]
        · rw [endsInLayout_append empty] at layout
          exact (induction layout).trans (List.suffix_append ..)
      · next other =>
        rw [if_neg other]
        by_cases empty : reflow lineBreak opened false rest = []
        · rw [empty] at layout
          cases layout
        · rw [← List.singleton_append] at layout ⊢
          rw [endsInLayout_append empty] at layout
          exact (induction layout).trans (List.suffix_append ..)

theorem unit_suffix_copiesOf {unit blanks : Text} {count : Int} (some : 0 < count)
    (copied : Canvas.copiesOf unit count = .ok blanks) : unit <:+ blanks := by
  rw [Canvas.copiesOf, if_neg (by omega)] at copied
  obtain rfl := Except.ok.inj copied
  obtain ⟨fewer, more⟩ : ∃ fewer, count.toNat = fewer + 1 := ⟨count.toNat - 1, by omega⟩
  rw [more, Text.copies, List.replicate_succ', List.flatten_append]
  exact ⟨Text.copies fewer unit, by simp [Text.copies]⟩

theorem unit_suffix_text {unit : Text} {level : Int} (deep : 0 ≤ level) {opened : Nat}
    {parent : Option Text} {inPre : Bool} {content : Text} {written : Traced}
    (rendered : text unit level opened parent inPre content = .ok written)
    (layout : endsInLayout written = true) : of (.layout opened) unit <:+ written := by
  rw [text] at rendered
  split at rendered
  · cases rendered
    cases layout
  · split at rendered
    · cases rendered
      exact absurd layout (not_endsInLayout_of rfl _)
    · split at rendered
      · obtain ⟨blanks, copied, rfl⟩ := map_eq_ok_iff.mp rendered
        apply List.IsSuffix.trans _ (lineBreak_suffix_reflow layout)
        obtain ⟨front, rfl⟩ := unit_suffix_copiesOf (by omega) copied
        rw [of_cons, of_append, ← List.cons_append]
        exact List.suffix_append ..
      · cases rendered
        exact absurd layout (not_endsInLayout_of rfl _)

theorem endTag_ne_nil (tag : Text) (children : List Node) : Rendering.endTag tag children ≠ [] := by
  rw [Rendering.endTag]
  split
  · decide
  · exact List.cons_ne_nil _ _

/-- A node that ends with layout ends with a whole unit of it. -/
theorem unit_suffix_node {unit : Text} {level : Int} (deep : 0 ≤ level) {opened : Nat}
    {parent : Option Text} {inPre : Bool} {drawn : Node} {written : Traced}
    (rendered : node unit level opened parent inPre drawn = .ok written)
    (layout : endsInLayout written = true) : of (.layout opened) unit <:+ written := by
  cases drawn with
  | element tag attributes children =>
    obtain ⟨start, inside, -, -, rfl⟩ := node_element_eq_ok rendered
    have ended : of .endTag (Rendering.endTag tag children) ≠ [] := by
      simpa [of] using endTag_ne_nil tag children
    rw [endsInLayout_append ended] at layout
    exact absurd layout (not_endsInLayout_of rfl _)
  | text content =>
    rw [node] at rendered
    exact unit_suffix_text deep rendered layout
  | comment content =>
    rw [node] at rendered
    cases rendered
    exact absurd layout (not_endsInLayout_of rfl _)
  | special kind content =>
    rw [node] at rendered
    cases rendered
    cases layout

theorem unit_suffix_nodes {unit : Text} {level : Int} (deep : 0 ≤ level) {opened : Nat}
    {parent : Option Text} {inPre : Bool} {drawn : List Node} {written : Traced}
    (rendered : nodes unit level opened parent inPre drawn = .ok written)
    (layout : endsInLayout written = true) : of (.layout opened) unit <:+ written := by
  induction drawn generalizing inPre written with
  | nil =>
    rw [nodes] at rendered
    cases rendered
    cases layout
  | cons first rest induction =>
    obtain ⟨before, after, begun, ended, rfl⟩ := nodes_cons_eq_ok rendered
    by_cases empty : after = []
    · rw [empty, List.append_nil] at layout ⊢
      exact unit_suffix_node deep begun layout
    · rw [endsInLayout_append empty] at layout
      exact (induction ended layout).trans (List.suffix_append ..)

end Provenance

namespace ClosingTag

open Outcome Traced

/-- What is written for an element before it is closed: its start tag and its contents. -/
def interior (unit : Text) (level : Int) (opened : Nat) (inPre : Bool) (tag : Text)
    (attributes : Attributes) (children : List Node) : Except Problem Traced := do
  let start ← Provenance.startTag tag attributes children
  let inside ← Provenance.nodes unit (level + 1) (opened + 1) (some tag)
    (inPre || Rendering.isPre tag) children
  return start ++ inside

/-- A run of text without line breaks as it is written. -/
def passage (inPre : Bool) (content : Text) : Text :=
  if inPre then Passage.preformatted content else Passage.guarded content

theorem interior_eq_ok {unit : Text} {level : Int} {opened : Nat} {inPre : Bool} {tag : Text}
    {attributes : Attributes} {children : List Node} {written : Traced}
    (rendered : interior unit level opened inPre tag attributes children = .ok written) :
    ∃ start inside, Provenance.startTag tag attributes children = .ok start ∧
      Provenance.nodes unit (level + 1) (opened + 1) (some tag) (inPre || Rendering.isPre tag)
        children = .ok inside ∧
      written = start ++ inside := by
  rw [interior, bind_eq_ok_iff] at rendered
  obtain ⟨start, started, rendered⟩ := rendered
  obtain ⟨inside, filled, joined⟩ := bind_eq_ok_iff.mp rendered
  exact ⟨start, inside, started, filled, (Except.ok.inj joined).symm⟩

/-- Drawing an element writes its interior less a unit at its end, and what closes it. -/
theorem output_of_drawNode {unit : Text} (blank : unit.isBlank = true) {parent : Option Text}
    {tag : Text} {attributes : Attributes} {children : List Node} {canvas closed : Canvas}
    (opened : Nat)
    (drawn : Canvas.drawNode unit parent (.element tag attributes children) canvas = .ok closed) :
    ∃ written,
      interior unit canvas.level opened canvas.inPre tag attributes children = .ok written ∧
      closed.output = canvas.output ++ (written.trimSuffix unit).plain ++
        Rendering.endTag tag children := by
  obtain ⟨text, rendered, rfl⟩ := Rendering.extended_of_drawNode blank drawn
  rw [← Provenance.plain_node _ _ opened, map_eq_ok_iff] at rendered
  obtain ⟨traced, rendered, rfl⟩ := rendered
  obtain ⟨start, inside, started, filled, rfl⟩ := Provenance.node_element_eq_ok rendered
  refine ⟨start ++ inside, ?_, ?_⟩
  · exact bind_eq_ok_iff.mpr ⟨start, started, bind_eq_ok_iff.mpr ⟨inside, filled, rfl⟩⟩
  · rw [Rendering.output_extended, plain_append, plain_of, List.append_assoc]

theorem unit_suffix_interior {unit : Text} {level : Int} (deep : 0 ≤ level) {opened : Nat}
    {inPre : Bool} {tag : Text} {attributes : Attributes} {children : List Node}
    {written : Traced}
    (rendered : interior unit level opened inPre tag attributes children = .ok written)
    (layout : endsInLayout written = true) : of (.layout (opened + 1)) unit <:+ written := by
  obtain ⟨start, inside, started, filled, rfl⟩ := interior_eq_ok rendered
  by_cases empty : inside = []
  · rw [empty, List.append_nil] at layout
    exact absurd layout (not_endsInLayout (Provenance.isLayout_of_mem_startTag started))
  · rw [endsInLayout_append empty] at layout
    exact (Provenance.unit_suffix_nodes (by omega) filled layout).trans (List.suffix_append ..)

/-- A text without line breaks is written as a passage of its mode. -/
theorem node_text {unit : Text} {level : Int} {tag content : Text} (unbroken : '\n' ∉ content)
    (shown : Property.movesContents (ElementName.toJsx tag) = false) (inPre : Bool) :
    Rendering.node unit level (some tag) inPre (.text content) = .ok (passage inPre content) := by
  have noBreak : content.contains '\n' = false := by
    simpa using unbroken
  rw [Rendering.node, Rendering.text, Option.any_some, shown, noBreak, passage]
  cases inPre <;> rfl

/-- A text without line breaks at the end of an element is the end of what is written for it. -/
theorem passage_suffix_interior {unit : Text} {level : Int} {opened : Nat} {inPre : Bool}
    {tag : Text} {attributes : Attributes} {before : List Node} {content : Text}
    {written : Traced} (unbroken : '\n' ∉ content)
    (shown : Property.movesContents (ElementName.toJsx tag) = false)
    (rendered : interior unit level opened inPre tag attributes (before ++ [.text content]) =
      .ok written) :
    passage (Rendering.flagAfterAll (inPre || Rendering.isPre tag) before) content <:+
      written.plain := by
  obtain ⟨start, inside, -, filled, rfl⟩ := interior_eq_ok rendered
  have plainly : Rendering.nodes unit (level + 1) (some tag) (inPre || Rendering.isPre tag)
      (before ++ [.text content]) = .ok inside.plain := by
    rw [← Provenance.plain_nodes _ _ (opened + 1), filled]
    rfl
  obtain ⟨first, last, -, found, joined⟩ := Rendering.nodes_append_eq_ok_iff.mp plainly
  rw [Rendering.nodes, node_text unbroken shown] at found
  obtain rfl : passage _ content ++ [] = last := Except.ok.inj found
  rw [plain_append, joined, List.append_nil, ← List.append_assoc]
  exact List.suffix_append ..

/--
The closing of an element takes only layout away exactly if it takes nothing or
the last character before it is layout.  In particular, a text without line
breaks at the end of an element is kept in full exactly if what is written for
the element does not end with the indent unit.
-/
theorem closing_takes_layout_iff (options : Options) {parent : Option Text} {tag : Text}
    {attributes : Attributes} {children : List Node} {canvas closed : Canvas} (opened : Nat)
    (deep : 0 ≤ canvas.level)
    (drawn : Canvas.drawNode options.indent parent (.element tag attributes children) canvas =
      .ok closed) :
    ∃ written : Traced,
      interior options.indent canvas.level opened canvas.inPre tag attributes children =
        .ok written ∧
      closed.output = canvas.output ++ (written.trimSuffix options.indent).plain ++
        Rendering.endTag tag children ∧
      ((∀ glyph ∈ written.taken options.indent, glyph.origin.isLayout = true) ↔
        (Text.endsWith written.plain options.indent = true →
          written.endsInLayout = true)) ∧
      ∀ before content, children = before ++ [.text content] → '\n' ∉ content →
        Property.movesContents (ElementName.toJsx tag) = false →
        ∃ front, written.plain = front ++
            passage (Rendering.flagAfterAll (canvas.inPre || Rendering.isPre tag) before) content ∧
          (closed.output = canvas.output ++ (front ++
              passage (Rendering.flagAfterAll (canvas.inPre || Rendering.isPre tag) before)
                content) ++ Rendering.endTag tag children ↔
            Text.endsWith written.plain options.indent = false) := by
  obtain ⟨written, rendered, output⟩ := output_of_drawNode options.indent_blank opened drawn
  refine ⟨written, rendered, output, ?_, ?_⟩
  · apply taken_isLayout_iff options.indent_nonempty
    intro layout
    exact ⟨opened + 1, unit_suffix_interior deep rendered layout⟩
  · rintro before content rfl unbroken shown
    obtain ⟨front, whole⟩ := passage_suffix_interior unbroken shown rendered
    refine ⟨front, whole.symm, ?_⟩
    rw [whole, output, plain_trimSuffix, List.append_cancel_right_eq, List.append_cancel_left_eq]
    exact Text.trimSuffix_eq_self_iff

/-- A paragraph that ends with a line break. -/
def brokenParagraph : List Node :=
  [.element "b".toList [] [], .text " x\n ".toList]

theorem closing_takes_layout_after_break :
    ∃ closed written,
      Canvas.drawNode "  ".toList none (.element "p".toList [] brokenParagraph) { level := 1 } =
        .ok closed ∧
      interior "  ".toList 1 0 false "p".toList [] brokenParagraph = .ok written ∧
      (written.taken "  ".toList).plain = "  ".toList ∧
      ∀ glyph ∈ written.taken "  ".toList, glyph.origin.isLayout = true := by
  have succeeds : (Canvas.drawNode "  ".toList none (.element "p".toList [] brokenParagraph)
      { level := 1 }).toOption.isSome = true := by
    decide +kernel
  have ends : (interior "  ".toList 1 0 false "p".toList [] brokenParagraph).toOption.map
      (fun written => (Text.endsWith written.plain "  ".toList, written.endsInLayout)) =
        some (true, true) := by
    decide +kernel
  cases drawn : Canvas.drawNode "  ".toList none (.element "p".toList [] brokenParagraph)
      { level := 1 } with
  | error interruption =>
    rw [drawn] at succeeds
    cases succeeds
  | ok closed =>
    obtain ⟨written, rendered, -, exactly, -⟩ :=
      closing_takes_layout_iff {} 0 (Int.zero_le_ofNat 1) drawn
    have found : interior "  ".toList 1 0 false "p".toList [] brokenParagraph = .ok written :=
      rendered
    rw [found] at ends
    obtain ⟨unit, layout⟩ := Prod.mk.inj (Option.some.inj ends)
    refine ⟨closed, written, rfl, found, plain_taken unit, ?_⟩
    apply exactly.mpr
    intro _
    exact layout

/-- Spaces at the end of a text are taken for indentation, also where text is preformatted. -/
theorem trailing_spaces_taken :
    (Conversion.convert {} "<p>a  </p>".toList).toOption.map Canvas.output =
        some "<p>a</p>\n".toList ∧
      (interior "  ".toList 1 0 false "p".toList [] [.text "a  ".toList]).toOption.map
        (·.taken "  ".toList) = some (of .text "  ".toList) ∧
      (Conversion.convert { indent := " ".toList } "<pre>a </pre>".toList).toOption.map
        Canvas.output = some "<pre>a</pre>\n".toList := by
  refine ⟨?_, ?_, ?_⟩
  · decide +kernel
  · decide +kernel
  · decide +kernel

end ClosingTag

end HtmlJsx
