import HtmlJsx.Proofs.Names
import HtmlJsx.Proofs.Rendering

/-!
# The output has the structure of the tree

The reader finds in the output exactly the elements and comments of the tree,
in the same nesting and order.  Every element has its JSX name and the JSX
names of its attributes; the contents of `textarea` and `style` elements come
last, as a property.  No text, value or comment closes a tag or an expression
early.
-/

namespace HtmlJsx.Structure

open Reader Outcome

/-! ## What is read -/

/-- The name of the property that holds the contents of an element, if they are moved. -/
def contentsNames (element : Text) : List Text :=
  if element = Property.textareaElement then ["defaultValue".toList]
  else if element = Property.styleElement then ["dangerouslySetInnerHTML".toList]
  else []

/-- The names of the properties of an element. -/
def propertyNames (tag : Text) (attributes : Attributes) : List Text :=
  attributes.map (fun entry => AttributeName.toJsx (ElementName.toJsx tag) entry.1) ++
    contentsNames (ElementName.toJsx tag)

mutual

/-- The elements and comments of a node with their JSX names; white space in comments is left out. -/
def shapes : Node → List Shape
  | .element tag attributes children =>
    [.element (ElementName.toJsx tag) (propertyNames tag attributes) (shapesBelow children)]
  | .text _ => []
  | .comment content => [.comment (Text.solids content)]
  | .special _ _ => []

/-- The elements and comments of sibling nodes. -/
def shapesBelow : List Node → List Shape
  | [] => []
  | node :: rest => shapes node ++ shapesBelow rest

end

/-! ## Regular trees -/

/-- Whether a name is in lower case and has no character that ends a name. -/
def isMarkupName (name : Text) : Bool :=
  isName name && Text.lower name = name

/-- Whether an attribute has such a name and does not hold a style. -/
def isRegularAttribute (entry : Text × Text) : Bool :=
  isMarkupName entry.1 && entry.1 ≠ Property.styleAttribute

mutual

/--
Whether all names below a node are those that markup can give, no attribute
holds a style, and elements whose contents are moved contain text only.
-/
def isRegular : Node → Bool
  | .element tag attributes children =>
    isMarkupName tag && attributes.all isRegularAttribute &&
      (!Property.movesContents tag || children.all Node.isText) && areRegular children
  | _ => true

/-- Whether sibling nodes are regular. -/
def areRegular : List Node → Bool
  | [] => true
  | node :: rest => isRegular node && areRegular rest

end

theorem areRegular_children {node : Node} (regular : isRegular node = true) :
    areRegular node.children = true := by
  cases node with
  | element tag attributes children =>
    rw [isRegular, Bool.and_eq_true] at regular
    exact regular.2
  | text content => rfl
  | comment content => rfl
  | special kind content => rfl

/-! ## Properties -/

/-- An integer contains nothing that opens or closes a part of an expression. -/
theorem expressionBody_of_isInteger {value : Text} (integer : Spelling.isInteger value = .ok true) :
    ExpressionBody value := by
  have differs {c : Char} (member : c ∈ value) {mark : Char} (solid : isBlank mark = false)
      (other : Spelling.isNumeralChar mark = false) : c ≠ mark := by
    rintro rfl
    rcases Spelling.isNumeralChar_of_isInteger integer c member with blank | numeral
    · rw [solid] at blank
      cases blank
    · rw [other] at numeral
      cases numeral
  rw [← List.append_nil value]
  apply ExpressionBody.plain_append _ .nil
  intro c member
  refine ⟨?_, ?_, ?_⟩
  · exact differs member (by decide) (by decide)
  · exact differs member (by decide) (by decide)
  · exact differs member (by decide) (by decide)

/-- No quote is left in a value that is written between quotes. -/
theorem quote_not_mem_replace (value : Text) :
    '"' ∉ Text.replace ['"'] "&quot;".toList value := by
  rw [Text.replace_char, List.mem_flatMap]
  rintro ⟨c, -, member⟩
  split at member
  · exact absurd member (by decide)
  · next differs => exact differs (List.mem_singleton.mp member)

theorem propertyText_valuePart {name value part : Text} (property : Text)
    (written : Property.valuePart name value = .ok part) :
    PropertyText property (property ++ part) := by
  rw [Property.valuePart, bind_eq_ok_iff] at written
  obtain ⟨integer, judged, written⟩ := written
  cases integer with
  | true =>
    obtain rfl := Except.ok.inj written
    exact .expression (expressionBody_of_isInteger judged)
  | false =>
    change (if (!value.isEmpty) = true then _ else _) = _ at written
    split at written
    · obtain rfl := Except.ok.inj written
      exact .quoted (quote_not_mem_replace value)
    · split at written
      · obtain rfl := Except.ok.inj written
        exact @PropertyText.quoted property [] List.not_mem_nil
      · obtain rfl := Except.ok.inj written
        rw [List.append_nil]
        exact .bare

theorem propertyText_ofAttribute {element name value text : Text}
    (plain : Text.lower name ≠ Property.styleAttribute)
    (written : Property.ofAttribute element name value = .ok text) :
    PropertyText (AttributeName.toJsx element name) text := by
  rw [Property.ofAttribute, if_neg plain, bind_eq_ok_iff] at written
  obtain ⟨part, found, written⟩ := written
  obtain rfl := Except.ok.inj written
  exact propertyText_valuePart _ found

theorem propertyTexts_ofAttributes {element : Text} {attributes : Attributes}
    {texts : List Text} (regular : attributes.all isRegularAttribute = true)
    (written : Property.ofAttributes element attributes = .ok texts) :
    List.Forall₂ PropertyText
      (attributes.map fun entry => AttributeName.toJsx element entry.1) texts := by
  induction attributes generalizing texts with
  | nil =>
    cases written
    exact .nil
  | cons entry rest induction =>
    obtain ⟨name, value⟩ := entry
    rw [List.all_cons, Bool.and_eq_true] at regular
    have plain : Text.lower name ≠ Property.styleAttribute := by
      have checked := regular.1
      simp only [isRegularAttribute, isMarkupName, Bool.and_eq_true, decide_eq_true_eq] at checked
      rw [checked.1.2]
      exact checked.2
    rw [Property.ofAttributes, bind_eq_ok_iff] at written
    obtain ⟨text, first, written⟩ := written
    obtain ⟨more, others, written⟩ := bind_eq_ok_iff.mp written
    obtain rfl := Except.ok.inj written
    exact .cons (propertyText_ofAttribute plain first) (induction regular.2 others)

theorem expressionBody_literal (contents : Text) {rest : Text} (body : ExpressionBody rest) :
    ExpressionBody (Text.literal contents ++ rest) := by
  have literal := ExpressionBody.literal (LiteralBody.literal contents) body
  simpa [Text.literal] using literal

theorem propertyTexts_ofContents (element contents : Text) :
    List.Forall₂ PropertyText (contentsNames element) (Property.ofContents element contents) := by
  rw [contentsNames, Property.ofContents]
  split
  · have balanced := expressionBody_literal contents .nil
    rw [List.append_nil] at balanced
    exact .cons (.expression balanced) .nil
  · split
    · have space : ExpressionBody [' '] := .char (by decide) (by decide) (by decide) .nil
      have key : ("__html: ".toList.all fun c => c != '"' && c != '{' && c != '}') = true := by
        decide
      have inside : ExpressionBody ("__html: ".toList ++ (Text.literal contents ++ [' '])) := by
        refine .plain_append ?_ (expressionBody_literal contents space)
        intro c member
        simpa [and_assoc] using List.all_eq_true.mp key c member
      have written := @PropertyText.expression "dangerouslySetInnerHTML".toList _
        (.braces inside .nil)
      refine .cons ?_ .nil
      simpa using written
    · exact .nil

/-- The properties of a regular element are written with their names in order. -/
theorem propertyTexts_properties {tag : Text} {attributes : Attributes} {children : List Node}
    {texts : List Text} (regular : attributes.all isRegularAttribute = true)
    (written : Canvas.properties tag attributes children = .ok texts) :
    List.Forall₂ PropertyText (propertyNames tag attributes) texts := by
  obtain ⟨given, found, written⟩ := bind_eq_ok_iff.mp written
  obtain rfl := Except.ok.inj written
  exact List.rel_append (propertyTexts_ofAttributes regular found) (propertyTexts_ofContents _ _)

theorem isName_propertyNames {tag : Text} {attributes : Attributes}
    (regular : attributes.all isRegularAttribute = true) :
    ∀ name ∈ propertyNames tag attributes, isName name = true := by
  intro name member
  rcases List.mem_append.mp member with given | contents
  · obtain ⟨entry, inAttributes, rfl⟩ := List.mem_map.mp given
    have checked := List.all_eq_true.mp regular entry inAttributes
    simp only [isRegularAttribute, isMarkupName, Bool.and_eq_true] at checked
    exact AttributeName.isName_toJsx _ checked.1.1
  · rw [contentsNames] at contents
    split at contents
    · obtain rfl := List.mem_singleton.mp contents
      decide
    · split at contents
      · obtain rfl := List.mem_singleton.mp contents
        decide
      · cases contents

/-! ## Contents that are moved -/

theorem movesContents_table : (ElementName.table.all fun entry =>
    !Property.movesContents entry.2 || Property.movesContents entry.1) = true := by
  decide +kernel

/-- No other element gets the name of one whose contents are moved. -/
theorem movesContents_of_toJsx {tag : Text} (lower : Text.lower tag = tag)
    (moves : Property.movesContents (ElementName.toJsx tag) = true) :
    Property.movesContents tag = true := by
  rw [ElementName.toJsx, lower] at moves
  cases found : ElementName.table.lookup tag with
  | none =>
    rw [found] at moves
    exact moves
  | some spelling =>
    rw [found, Option.getD_some] at moves
    have checked := List.all_eq_true.mp movesContents_table _ (mem_of_lookup found)
    rw [moves] at checked
    exact checked

theorem shapesBelow_texts {children : List Node} (texts : children.all Node.isText = true) :
    shapesBelow children = [] := by
  induction children with
  | nil => rfl
  | cons child rest induction =>
    rw [List.all_cons, Bool.and_eq_true] at texts
    cases child with
    | text content => exact induction texts.2
    | _ => cases texts.1

/-- Nothing is written for text that has been moved. -/
theorem nodes_texts {unit tag : Text} {level : Int} {inPre : Bool} {children : List Node}
    (moves : Property.movesContents (ElementName.toJsx tag) = true)
    (texts : children.all Node.isText = true) :
    Rendering.nodes unit level (some tag) inPre children = .ok [] := by
  induction children with
  | nil => rfl
  | cons child rest induction =>
    rw [List.all_cons, Bool.and_eq_true] at texts
    cases child with
    | text content =>
      have kept : Rendering.flagAfter inPre (.text content) = inPre := rfl
      rw [Rendering.nodes, Rendering.node, Rendering.text, Option.any_some, if_pos moves, kept,
        induction texts.2]
      rfl
    | _ => cases texts.1

/-- An element that closes itself has nothing to write or to read between its tags. -/
theorem inside_of_isSelfClosing {unit tag inside : Text} {level : Int} {inPre : Bool}
    {attributes : Attributes} {children : List Node}
    (regular : isRegular (.element tag attributes children) = true)
    (closing : Canvas.isSelfClosing tag children = true)
    (rendered : Rendering.nodes unit level (some tag) inPre children = .ok inside) :
    inside = [] ∧ shapesBelow children = [] := by
  simp only [isRegular, isMarkupName, Bool.and_eq_true, Bool.or_eq_true, Bool.not_eq_true',
    decide_eq_true_eq] at regular
  obtain ⟨⟨⟨⟨-, lower⟩, -⟩, moved⟩, -⟩ := regular
  rw [Canvas.isSelfClosing, Bool.or_eq_true] at closing
  rcases closing with empty | moves
  · obtain rfl := List.isEmpty_iff.mp empty
    cases rendered
    exact ⟨rfl, rfl⟩
  · have texts : children.all Node.isText = true := by
      rcases moved with other | texts
      · rw [movesContents_of_toJsx lower moves] at other
        cases other
      · exact texts
    rw [nodes_texts moves texts] at rendered
    cases rendered
    exact ⟨rfl, shapesBelow_texts texts⟩

/-! ## Reading what a node writes -/

/-- Text adds no element and no comment, and leaves none open. -/
theorem run_text {unit : Text} (blank : unit.isBlank = true) {state : State}
    (content : state.mode = .content) {level : Int} {parent : Option Text} {inPre : Bool}
    {source written : Text}
    (rendered : Rendering.text unit level parent inPre source = .ok written) :
    state.run written = some state := by
  rw [Rendering.text] at rendered
  split at rendered
  · cases rendered
    rfl
  · split at rendered
    · cases rendered
      exact State.run_preformatted content source
    · split at rendered
      · obtain ⟨blanks, copied, rfl⟩ := map_eq_ok_iff.mp rendered
        exact State.run_running content (Rendering.isBlank_copiesOf blank copied) source
      · cases rendered
        exact State.run_guarded content source

/--
An element is read as one shape if its contents are.  Where the element closes
itself, the unit that is taken off cannot reach into the start tag, because
the start tag does not end in a blank.
-/
theorem run_element {unit : Text} (blank : unit.isBlank = true) {state : State}
    (content : state.mode = .content) {tag : Text} {attributes : Attributes}
    {children : List Node} (regular : isRegular (.element tag attributes children) = true)
    {start inside : Text} (started : Rendering.startTag tag attributes children = .ok start)
    {level : Int} {inPre : Bool}
    (filled : Rendering.nodes unit level (some tag) inPre children = .ok inside)
    (readInside : ∀ inner : State, inner.mode = .content →
      inner.run inside = some (inner.add (shapesBelow children))) :
    state.run (Text.trimSuffix (start ++ inside) unit ++ Rendering.endTag tag children) =
      some (state.add (shapes (.element tag attributes children))) := by
  obtain ⟨texts, found, rfl⟩ := Rendering.startTag_eq_ok started
  have parts := regular
  simp only [isRegular, isMarkupName, Bool.and_eq_true, decide_eq_true_eq] at parts
  obtain ⟨⟨⟨⟨tagNamed, lower⟩, regularAttributes⟩, -⟩, -⟩ := parts
  have named : isName (ElementName.toJsx tag) = true := ElementName.isName_toJsx tagNamed lower
  obtain ⟨after, ran, read⟩ := State.run_startTag content named
    (propertyTexts_properties regularAttributes found) (isName_propertyNames regularAttributes)
  rw [Rendering.endTag]
  cases closing : Canvas.isSelfClosing tag children with
  | true =>
    -- Nothing is written inside, so the unit could only be taken off the start tag itself.
    obtain ⟨rfl, none⟩ := inside_of_isSelfClosing regular closing filled
    rw [if_pos rfl, if_pos rfl, List.append_nil, List.append_nil,
      State.trimSuffix_eq_self blank ran read.not_settled, State.run_append, ran, shapes, none]
    exact read.run_selfClose
  | false =>
    rw [if_neg Bool.false_ne_true, if_neg Bool.false_ne_true]
    let opened := state.descend (ElementName.toJsx tag) (propertyNames tag attributes)
    have begun :
        state.run ('<' :: (ElementName.toJsx tag ++ texts.flatMap (' ' :: ·) ++ ['>']) ++ inside) =
          some (opened.add (shapesBelow children)) := by
      rw [List.cons_append, List.append_assoc, ← List.cons_append, State.run_append, ran,
        Option.bind_some, List.singleton_append, State.run_cons, read.step_bracket]
      exact readInside opened rfl
    rw [State.run_append, State.run_trimSuffix blank begun rfl]
    exact State.run_endTag named _ _

mutual

/-- The reader reads the shapes of a node from its rendering and is back in content. -/
theorem run_node {unit : Text} (blank : unit.isBlank = true) :
    (node : Node) → {state : State} → state.mode = .content → isRegular node = true →
      {level : Int} → {parent : Option Text} → {inPre : Bool} → {written : Text} →
      Rendering.node unit level parent inPre node = .ok written →
      state.run written = some (state.add (shapes node))
  | .element tag attributes children, state, content, regular, level, parent, inPre, written,
      rendered => by
    rw [Rendering.node, bind_eq_ok_iff] at rendered
    obtain ⟨start, started, rendered⟩ := rendered
    obtain ⟨inside, filled, ended⟩ := bind_eq_ok_iff.mp rendered
    obtain rfl := Except.ok.inj ended
    apply run_element blank content regular started filled
    intro inner innerContent
    exact run_nodes blank children innerContent (areRegular_children regular) filled
  | .text source, state, content, _, level, parent, inPre, written, rendered => by
    rw [run_text blank content rendered, shapes, State.add_nil content]
  | .comment source, state, content, _, level, parent, inPre, written, rendered => by
    cases rendered
    exact State.run_comment content source
  | .special kind source, state, content, _, level, parent, inPre, written, rendered => by
    cases rendered
    rw [State.run_nil, shapes, State.add_nil content]

theorem run_nodes {unit : Text} (blank : unit.isBlank = true) :
    (nodes : List Node) → {state : State} → state.mode = .content → areRegular nodes = true →
      {level : Int} → {parent : Option Text} → {inPre : Bool} → {written : Text} →
      Rendering.nodes unit level parent inPre nodes = .ok written →
      state.run written = some (state.add (shapesBelow nodes))
  | [], state, content, _, level, parent, inPre, written, rendered => by
    cases rendered
    rw [State.run_nil, shapesBelow, State.add_nil content]
  | first :: rest, state, content, regular, level, parent, inPre, written, rendered => by
    rw [areRegular, Bool.and_eq_true] at regular
    rw [Rendering.nodes, bind_eq_ok_iff] at rendered
    obtain ⟨before, begun, rendered⟩ := rendered
    obtain ⟨after, ended, joined⟩ := bind_eq_ok_iff.mp rendered
    obtain rfl := Except.ok.inj joined
    -- What a node adds leaves the reader in content, so the siblings start where it started.
    rw [State.run_append, run_node blank first content regular.1 begun, Option.bind_some,
      run_nodes blank rest rfl regular.2 ended, shapesBelow, State.add_add]

end

/-! ## Reading the output of a conversion -/

/-- The elements and comments that the output of a conversion shows, with or without the container. -/
def outermost (container : Node) : List Shape :=
  if Conversion.hasOneTopLevel container.children then shapesBelow container.children
  else shapes container

theorem run_whole {unit : Text} (blank : unit.isBlank = true) {container : Node}
    (regular : isRegular container = true) {drawn : Text}
    (rendered : Rendering.whole unit container = .ok drawn) :
    State.run {} drawn = some (State.add {} (outermost container)) := by
  rw [Rendering.whole] at rendered
  rw [outermost]
  split at rendered
  · next alone =>
    rw [if_pos alone]
    exact run_nodes blank container.children rfl (areRegular_children regular) rendered
  · next wrapped =>
    rw [if_neg wrapped]
    obtain ⟨written, drawn, rfl⟩ := map_eq_ok_iff.mp rendered
    have indentation : Text.isBlank (Text.copies Conversion.bodyLevels unit) = true :=
      Text.isBlank_copies blank _
    rw [(State.settled_of_content rfl).run_blanks _ indentation]
    exact run_node blank container rfl regular drawn

/--
The output of a conversion is read as the elements and comments of the tree,
in the same nesting and order, with their JSX names.
-/
theorem read_output (options : Options) {container : Node} (regular : isRegular container = true)
    {canvas : Canvas} (rendered : Conversion.render options.indent container = .ok canvas) :
    Reader.read canvas.output = some (outermost container) := by
  have blank : options.indent.isBlank = true := options.indent_blank
  obtain ⟨drawn, whole, output⟩ := Rendering.output_of_render blank rendered
  have ran := State.run_finish blank (run_whole blank regular whole) rfl
  rw [output, Reader.read, ran]
  rfl

/-- A tree whose texts, values and comments hold brackets, braces, quotes and end marks. -/
def punctuated : Node :=
  .element "div".toList []
    [.element "label".toList [("for".toList, "a\"b".toList), ("class".toList, "\x7d>".toList)]
      [.text "</label> \x7b\n  <b>".toList, .element "br".toList [] []],
     .comment "x */ \x7d <y>".toList,
     .element "textarea".toList [("rows".toList, "3".toList)] [.text "\"\x7d />\n".toList],
     .element "pre".toList [] [.text "  \x7b\n>".toList],
     .special .doctype "html".toList]

theorem read_output_punctuated :
    isRegular punctuated = true ∧
      ∃ canvas, Conversion.render "  ".toList punctuated = .ok canvas ∧
        Reader.read canvas.output = some (shapes punctuated) := by
  have regular : isRegular punctuated = true := by decide +kernel
  have succeeds : (Conversion.render "  ".toList punctuated).toOption.isSome = true := by
    decide +kernel
  cases rendered : Conversion.render "  ".toList punctuated with
  | error interruption =>
    rw [rendered] at succeeds
    cases succeeds
  | ok canvas => exact ⟨regular, canvas, rfl, read_output {} regular rendered⟩

end HtmlJsx.Structure
