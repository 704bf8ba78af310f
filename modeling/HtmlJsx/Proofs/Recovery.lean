import HtmlJsx.Proofs.Failure
import HtmlJsx.Proofs.Literal
import HtmlJsx.Proofs.MovedContents
import HtmlJsx.Proofs.Reader.Passage

/-!
# Moved contents can be read back from the output

The contents of a `textarea` or `style` element stand in the output as a string
literal.  After the literal has been written, an indent unit may be taken off
before any end tag, the output is trimmed, and the indentation is taken off all
of its lines.  Each of these steps works on blanks, and a literal has no line
break and stands between solid characters.  So for every such element with only
text in it, the output holds a literal that is read as the contents of the
element, and these literals follow each other in document order.
-/

namespace HtmlJsx.Recovery

open Outcome

/-! ## Literals -/

/--
A literal of a text: it ends at the first quote that is not escaped, no control
character stands in it as it is, and it is read as the text.
-/
structure IsLiteralOf (content literal : Text) : Prop where
  delimited : ∃ body, Reader.LiteralBody body ∧ literal = '"' :: body ++ ['"']
  printable : ∀ c ∈ literal, 32 ≤ c.toNat
  decoded : Json.document literal = .ok (.text content)

theorem printable_literalChar (c : Char) :
    (Text.literalChar c).all (fun d => decide (32 ≤ d.toNat)) = true := by
  have digits : ∀ number < 32,
      (Text.hexDigits 4 number).all (fun d => decide (32 ≤ d.toNat)) = true := by
    decide
  rw [Text.literalChar]
  repeat' split
  · rfl
  · rfl
  · rfl
  · rfl
  · rfl
  · rfl
  · rfl
  · next control => exact digits _ control
  · next control => simpa using control

theorem document_literal (content : Text) :
    Json.document (Text.literal content) = .ok (.text content) := by
  have marked : (Text.literal content).head? ≠ some (Char.ofNat 0xFEFF) := by
    simp [Text.literal]
  have skipped : Json.skipSpace (Text.literal content) = Text.literal content := by
    rw [Json.skipSpace, Text.literal, List.cons_append, List.dropWhile_cons_of_neg (by decide)]
  rw [Json.document, if_neg marked, skipped]
  change (Json.string (content.flatMap Text.literalChar ++ ['"']) >>= _) >>= _ = _
  rw [Json.string_literal]
  rfl

theorem isLiteralOf_literal (content : Text) : IsLiteralOf content (Text.literal content) where
  delimited := ⟨_, .literal content, rfl⟩
  printable := by
    intro c member
    simp only [Text.literal, List.mem_append, List.mem_cons, List.mem_flatMap,
      List.not_mem_nil, or_false] at member
    rcases member with (rfl | ⟨source, -, written⟩) | rfl
    · decide
    · simpa using List.all_eq_true.mp (printable_literalChar source) c written
    · decide
  decoded := document_literal content

/-! ## Elements that hold their contents in a property -/

/-- Whether an element has its contents moved and holds nothing but text. -/
def isHolder : Node → Bool
  | .element tag _ children =>
    Property.movesContents (ElementName.toJsx tag) && children.all Node.isText
  | _ => false

/-- The nodes of an outline that hold their contents in a property. -/
def holdersOf (outline : List (Option Text × Node)) : List Node :=
  (outline.map Prod.snd).filter isHolder

/-- The elements below a container that hold their contents in a property, in document order. -/
def holders (container : Node) : List Node :=
  holdersOf (Node.outlineAll container.tag? container.children)

theorem holdersOf_append (left right : List (Option Text × Node)) :
    holdersOf (left ++ right) = holdersOf left ++ holdersOf right := by
  rw [holdersOf, List.map_append, List.filter_append]
  rfl

theorem holdersOf_texts {children : List Node} (texts : children.all Node.isText = true)
    (parent : Option Text) : holdersOf (Node.outlineAll parent children) = [] := by
  induction children with
  | nil => rfl
  | cons child rest induction =>
    rw [List.all_cons, Bool.and_eq_true] at texts
    obtain ⟨content, rfl⟩ := Node.eq_text_of_isText texts.1
    rw [Node.outlineAll, holdersOf_append, induction texts.2]
    rfl

/-! ## Texts that follow each other -/

/-- What is shown for some nodes stands in a text, one after the other. -/
def InOrder (shows : Node → Text → Prop) : List Node → Text → Prop
  | [], _ => True
  | node :: rest, whole =>
    ∃ before written after, whole = before ++ (written ++ after) ∧ shows node written ∧
      InOrder shows rest after

section InOrder

variable {shows : Node → Text → Prop} {nodes : List Node} {whole : Text}

theorem InOrder.append_left (ordered : InOrder shows nodes whole) (front : Text) :
    InOrder shows nodes (front ++ whole) := by
  cases nodes with
  | nil => trivial
  | cons node rest =>
    obtain ⟨before, written, after, rfl, shown, others⟩ := ordered
    exact ⟨front ++ before, written, after, by rw [List.append_assoc], shown, others⟩

theorem InOrder.append {more : List Node} {back : Text} (ordered : InOrder shows nodes whole)
    (later : InOrder shows more back) : InOrder shows (nodes ++ more) (whole ++ back) := by
  induction nodes generalizing whole with
  | nil => exact later.append_left whole
  | cons node rest induction =>
    obtain ⟨before, written, after, rfl, shown, others⟩ := ordered
    exact ⟨before, written, after ++ back, by simp, shown, induction others⟩

theorem InOrder.of_append {front : List Node} (ordered : InOrder shows (front ++ nodes) whole) :
    InOrder shows nodes whole := by
  induction front generalizing whole with
  | nil => exact ordered
  | cons node rest induction =>
    obtain ⟨before, written, after, rfl, -, later⟩ := ordered
    exact ((induction later).append_left written).append_left before

theorem InOrder.append_right (ordered : InOrder shows nodes whole) (back : Text) :
    InOrder shows nodes (whole ++ back) := by
  have none : InOrder shows [] back := trivial
  have appended := ordered.append none
  rwa [List.append_nil] at appended

theorem InOrder.imp {others : Node → Text → Prop} (ordered : InOrder shows nodes whole)
    (implies : ∀ node written, shows node written → others node written) :
    InOrder others nodes whole := by
  induction nodes generalizing whole with
  | nil => trivial
  | cons node rest induction =>
    obtain ⟨before, written, after, rfl, shown, later⟩ := ordered
    exact ⟨before, written, after, rfl, implies node written shown, induction later⟩

/-! What is shown stands between brackets, and no step of the layout reaches over one. -/

variable (bracketed : ∀ {node written}, shows node written →
  ∃ inside, written = '<' :: (inside ++ ['>']))
include bracketed

/-- Blanks at the start of a text are not part of what is shown. -/
theorem InOrder.of_blank_append {blanks : Text} (blank : blanks.isBlank = true)
    (ordered : InOrder shows nodes (blanks ++ whole)) : InOrder shows nodes whole := by
  cases nodes with
  | nil => trivial
  | cons node rest =>
    obtain ⟨before, written, after, split, shown, later⟩ := ordered
    obtain ⟨inside, rfl⟩ := bracketed shown
    have starts : blanks <+: before ++ '<' :: (inside ++ ['>'] ++ after) :=
      ⟨whole, split⟩
    obtain ⟨kept, rfl⟩ := (Text.prefix_append_solid_iff blank (by decide) _ _).mp starts
    rw [List.append_assoc] at split
    exact ⟨kept, _, after, List.append_cancel_left split, shown, later⟩

/-- Blanks at the end of a text are not part of what is shown. -/
theorem InOrder.of_append_blank {blanks : Text} (blank : blanks.isBlank = true)
    (ordered : InOrder shows nodes (whole ++ blanks)) : InOrder shows nodes whole := by
  induction nodes generalizing whole with
  | nil => trivial
  | cons node rest induction =>
    obtain ⟨before, written, after, split, shown, later⟩ := ordered
    obtain ⟨inside, rfl⟩ := bracketed shown
    have shape : before ++ ('<' :: (inside ++ ['>']) ++ after) =
        (before ++ '<' :: inside) ++ '>' :: after := by
      simp
    have ends : blanks <:+ (before ++ '<' :: inside) ++ '>' :: after :=
      ⟨whole, split.trans shape⟩
    obtain ⟨kept, rfl⟩ := (Text.suffix_append_solid_iff blank (by decide) _ _).mp ends
    have cut : whole ++ blanks = (before ++ ('<' :: (inside ++ ['>']) ++ kept)) ++ blanks := by
      rw [split]
      simp
    exact ⟨before, _, kept, List.append_cancel_right cut, shown, induction later⟩

theorem InOrder.trimSuffix {unit : Text} (blank : unit.isBlank = true)
    (ordered : InOrder shows nodes whole) : InOrder shows nodes (Text.trimSuffix whole unit) := by
  obtain ⟨removed, blanks, split⟩ := Text.exists_eq_trimSuffix_append whole blank
  rw [split] at ordered
  exact ordered.of_append_blank bracketed blanks

theorem InOrder.trim (ordered : InOrder shows nodes whole) :
    InOrder shows nodes (Text.trim whole) := by
  obtain ⟨before, after, blankBefore, blankAfter, split⟩ := Text.exists_eq_append_trim whole
  rw [split, List.append_assoc] at ordered
  exact (ordered.of_blank_append bracketed blankBefore).of_append_blank bracketed blankAfter

/-- Unindenting a text unindents what is shown in it. -/
theorem InOrder.unindent {unit : Text} (blank : unit.isBlank = true)
    (ordered : InOrder shows nodes whole) :
    InOrder (fun node text => ∃ written, shows node written ∧
      text = Conversion.unindent unit written) nodes (Conversion.unindent unit whole) := by
  have opens : isBlank '<' = false := by decide
  have closes : isBlank '>' = false := by decide
  induction nodes generalizing whole with
  | nil => trivial
  | cons node rest induction =>
    obtain ⟨before, written, after, rfl, shown, later⟩ := ordered
    refine ⟨Conversion.unindent unit before, Conversion.unindent unit written,
      Conversion.unindent unit after, ?_, ⟨written, shown, rfl⟩, induction later⟩
    obtain ⟨inside, rfl⟩ := bracketed shown
    have alone : Conversion.unindent unit ('<' :: (inside ++ ['>'])) =
        '<' :: (Conversion.unindent unit inside ++ ['>']) := by
      rw [← List.nil_append ('<' :: _), Conversion.unindent_append_solid blank opens,
        Conversion.unindent_append_solid blank closes]
      rfl
    rw [alone, List.cons_append, Conversion.unindent_append_solid blank opens, List.append_assoc,
      List.singleton_append, Conversion.unindent_append_solid blank closes]
    simp

theorem InOrder.finish {unit : Text} (blank : unit.isBlank = true)
    (ordered : InOrder shows nodes whole) :
    InOrder (fun node text => ∃ written, shows node written ∧
      text = Conversion.unindent unit written) nodes (Conversion.finish unit whole) :=
  InOrder.unindent bracketed blank ((ordered.trim bracketed).append_right ['\n'])

end InOrder

/-! ## The rendering of an element that holds its contents -/

/-- The property of an element that a literal stands in. -/
def framed (name literal : Text) : Text :=
  if name = Property.textareaElement then
    "defaultValue=\x7b".toList ++ literal ++ ['}']
  else
    "dangerouslySetInnerHTML=\x7b\x7b__html: ".toList ++ literal ++ " \x7d\x7d".toList

theorem holder_eq_framed (name contents : Text) :
    MovedContents.holder name contents = framed name (Text.literal contents) := rfl

/-- An element as it is rendered: its given properties and the literal of its contents. -/
def Rendered (element : Node) (written : Text) : Prop :=
  ∃ tag attributes children given, element = .element tag attributes children ∧
    Property.ofAttributes (ElementName.toJsx tag) attributes = .ok given ∧
    written = MovedContents.opening (ElementName.toJsx tag) given ++
      ' ' :: (framed (ElementName.toJsx tag) (Text.literal element.textContent) ++ " />".toList)

theorem Rendered.bracketed {element : Node} {written : Text} (rendered : Rendered element written) :
    ∃ inside, written = '<' :: (inside ++ ['>']) := by
  obtain ⟨tag, attributes, children, given, -, -, rfl⟩ := rendered
  refine ⟨ElementName.toJsx tag ++ given.flatMap (' ' :: ·) ++
    ' ' :: (framed (ElementName.toJsx tag) (Text.literal element.textContent) ++ [' ', '/']), ?_⟩
  simp [MovedContents.opening]

theorem rendered_of_isHolder {unit : Text} (blank : unit.isBlank = true) {level : Int}
    {parent : Option Text} {inPre : Bool} {element : Node} (held : isHolder element = true)
    {written : Text} (drawn : Rendering.node unit level parent inPre element = .ok written) :
    Rendered element written := by
  cases element with
  | element tag attributes children =>
    rw [isHolder, Bool.and_eq_true] at held
    obtain ⟨moves, texts⟩ := held
    have flat : ∀ child ∈ children, child.isElement = false := by
      intro child member
      obtain ⟨content, rfl⟩ := Node.eq_text_of_isText (List.all_eq_true.mp texts child member)
      rfl
    have silent : MovedContents.remarks children = [] := by
      rw [MovedContents.remarks_eq_nil_iff]
      intro content member
      cases List.all_eq_true.mp texts _ member
    cases judged : Property.ofAttributes (ElementName.toJsx tag) attributes with
    | error fault =>
      rw [Rendering.node, Rendering.startTag, Canvas.properties, judged] at drawn
      cases drawn
    | ok given =>
      rw [MovedContents.node_renamed_eq_ok blank moves flat judged, silent] at drawn
      obtain rfl := Except.ok.inj drawn
      refine ⟨tag, attributes, children, given, rfl, judged, ?_⟩
      rw [holder_eq_framed]
      simp only [MovedContents.opening, List.flatMap_append, List.flatMap_cons, List.flatMap_nil,
        List.append_nil, List.append_assoc, List.cons_append]
  | _ => cases held

mutual

/-- The elements below a node that hold their contents are rendered in document order. -/
theorem inOrder_node {unit : Text} (blank : unit.isBlank = true) :
    (node : Node) → {level : Int} → {parent : Option Text} → {inPre : Bool} → {written : Text} →
      Rendering.node unit level parent inPre node = .ok written →
      InOrder Rendered (holdersOf (node.outline parent)) written
  | .element tag attributes children, level, parent, inPre, written, drawn => by
    cases held : isHolder (.element tag attributes children) with
    | true =>
      have texts : children.all Node.isText = true := by
        rw [isHolder, Bool.and_eq_true] at held
        exact held.2
      have alone : holdersOf ((Node.element tag attributes children).outline parent) =
          [.element tag attributes children] := by
        rw [Node.outline, ← List.singleton_append, holdersOf_append, holdersOf_texts texts]
        simp [holdersOf, held]
      rw [alone]
      exact ⟨[], written, [], by simp, rendered_of_isHolder blank held drawn, trivial⟩
    | false =>
      have below : holdersOf ((Node.element tag attributes children).outline parent) =
          holdersOf (Node.outlineAll (some tag) children) := by
        rw [Node.outline, ← List.singleton_append, holdersOf_append]
        simp [holdersOf, held]
      rw [Rendering.node, bind_eq_ok_iff] at drawn
      obtain ⟨start, -, drawn⟩ := drawn
      obtain ⟨inside, filled, ended⟩ := bind_eq_ok_iff.mp drawn
      obtain rfl := Except.ok.inj ended
      have ordered := (inOrder_nodes blank children filled).append_left start
      rw [below]
      exact (ordered.trimSuffix Rendered.bracketed blank).append_right _
  | .text _, _, _, _, _, _ => trivial
  | .comment _, _, _, _, _, _ => trivial
  | .special _ _, _, _, _, _, _ => trivial

theorem inOrder_nodes {unit : Text} (blank : unit.isBlank = true) :
    (nodes : List Node) → {level : Int} → {parent : Option Text} → {inPre : Bool} →
      {written : Text} → Rendering.nodes unit level parent inPre nodes = .ok written →
      InOrder Rendered (holdersOf (Node.outlineAll parent nodes)) written
  | [], _, _, _, _, _ => trivial
  | first :: rest, level, parent, inPre, written, drawn => by
    rw [Rendering.nodes, bind_eq_ok_iff] at drawn
    obtain ⟨before, begun, drawn⟩ := drawn
    obtain ⟨after, continued, ended⟩ := bind_eq_ok_iff.mp drawn
    obtain rfl := Except.ok.inj ended
    rw [Node.outlineAll, holdersOf_append]
    exact (inOrder_node blank first begun).append (inOrder_nodes blank rest continued)

end

/-- The elements below a container are rendered in document order, whether it is drawn or not. -/
theorem inOrder_whole {unit : Text} (blank : unit.isBlank = true) {container : Node}
    {drawn : Text} (rendered : Rendering.whole unit container = .ok drawn) :
    InOrder Rendered (holders container) drawn := by
  rw [Rendering.whole] at rendered
  split at rendered
  · exact inOrder_nodes blank container.children rendered
  · obtain ⟨written, found, rfl⟩ := map_eq_ok_iff.mp rendered
    refine InOrder.append_left ?_ _
    cases container with
    | element tag attributes children =>
      have ordered := inOrder_node blank _ found
      rw [Node.outline, ← List.singleton_append, holdersOf_append] at ordered
      exact ordered.of_append
    | _ => trivial

/-! ## The output -/

/--
An element as it stands in the output: the literal and what frames it are as
they were rendered, only the given properties may have lost indentation.
-/
def Shown (unit : Text) (element : Node) (written : Text) : Prop :=
  ∃ tag attributes children given literal, element = .element tag attributes children ∧
    Property.ofAttributes (ElementName.toJsx tag) attributes = .ok given ∧
    IsLiteralOf element.textContent literal ∧
    written =
      Conversion.unindent unit (MovedContents.opening (ElementName.toJsx tag) given ++ [' ']) ++
        framed (ElementName.toJsx tag) literal ++ " />".toList

/-- A framed literal has no line break, and begins with a letter. -/
theorem framed_eq_cons (name : Text) {content literal : Text}
    (denotes : IsLiteralOf content literal) :
    ∃ rest, framed name literal = 'd' :: rest ∧ '\n' ∉ rest := by
  have oneLine : '\n' ∉ literal := by
    intro member
    exact absurd (denotes.printable '\n' member) (by decide)
  rw [framed]
  split
  · refine ⟨"efaultValue=\x7b".toList ++ literal ++ ['}'], rfl, ?_⟩
    simp [oneLine]
  · refine ⟨"angerouslySetInnerHTML=\x7b\x7b__html: ".toList ++ literal ++ " \x7d\x7d".toList,
      rfl, ?_⟩
    simp [oneLine]

theorem Rendered.shown {unit : Text} (blank : unit.isBlank = true) {element : Node}
    {written : Text} (rendered : Rendered element written) :
    Shown unit element (Conversion.unindent unit written) := by
  obtain ⟨tag, attributes, children, given, isElement, judged, rfl⟩ := rendered
  have denotes := isLiteralOf_literal element.textContent
  refine ⟨tag, attributes, children, given, _, isElement, judged, denotes, ?_⟩
  obtain ⟨rest, shape, oneLine⟩ := framed_eq_cons (ElementName.toJsx tag) denotes
  have apart : '\n' ∉ rest ++ " />".toList := by simp [oneLine]
  rw [shape, List.cons_append, ← List.singleton_append, ← List.append_assoc,
    Conversion.unindent_append_solid blank (by decide),
    Conversion.unindent_of_not_mem apart]
  simp

/-- Only a value that cannot be judged keeps a container from being rendered. -/
theorem exists_of_render_error {unit : Text} (blank : unit.isBlank = true) {container : Node}
    {interruption : Interruption}
    (failed : Conversion.render unit container = .error interruption) :
    ∃ value ∈ Failure.judged container,
      Spelling.HasTooManyDigits value ∨ Spelling.IsTooLarge value := by
  have below : Failure.judgedBelow container.children ⊆ Failure.judged container := by
    cases container with
    | element tag attributes children => exact List.subset_append_right _ _
    | _ => exact List.nil_subset _
  have faulty : ∃ values ⊆ Failure.judged container, Failure.fault? values ≠ none := by
    have agrees := congrArg error? (Rendering.output_render_eq blank container)
    rw [failed, Rendering.whole] at agrees
    split at agrees
    · simp only [error?_map] at agrees
      rw [Failure.error?_nodes _ _ _ (by decide)] at agrees
      refine ⟨_, below, ?_⟩
      intro none
      rw [none] at agrees
      cases agrees
    · simp only [error?_map] at agrees
      rw [Failure.error?_node _ _ _ (by decide)] at agrees
      refine ⟨_, List.Subset.refl _, ?_⟩
      intro none
      rw [none] at agrees
      cases agrees
  obtain ⟨values, within, faulty⟩ := faulty
  apply Classical.byContradiction
  intro judgeable
  refine faulty (Failure.fault?_eq_none_iff.mpr fun value member => not_or.mp fun wrong => ?_)
  exact judgeable ⟨value, within member, wrong⟩

/--
The output holds the elements whose contents are moved and are only text, in
document order, each with a literal that is read as the contents of the element.
There is an output unless some value cannot be judged as a number.
-/
theorem output_shows_contents (options : Options) (container : Node) :
    (∃ interruption, Conversion.render options.indent container = .error interruption ∧
      ∃ value ∈ Failure.judged container,
        Spelling.HasTooManyDigits value ∨ Spelling.IsTooLarge value) ∨
    ∃ canvas, Conversion.render options.indent container = .ok canvas ∧
      InOrder (Shown options.indent) (holders container) canvas.output := by
  have blank : options.indent.isBlank = true := options.indent_blank
  cases rendered : Conversion.render options.indent container with
  | error interruption => exact .inl ⟨interruption, rfl, exists_of_render_error blank rendered⟩
  | ok canvas =>
    obtain ⟨drawn, whole, output⟩ := Rendering.output_of_render blank rendered
    refine .inr ⟨canvas, rfl, ?_⟩
    rw [output]
    refine ((inOrder_whole blank whole).finish Rendered.bracketed blank).imp ?_
    rintro node text ⟨written, rendered, rfl⟩
    exact rendered.shown blank

example : (Conversion.render "  ".toList (.element "div".toList []
    [.element "textarea".toList [] [.text "\"\n      ".toList]])).toOption.map Canvas.output =
      some "<textarea defaultValue=\x7b\"\\\"\\n      \"\x7d />\n".toList := by
  decide +kernel

end HtmlJsx.Recovery
