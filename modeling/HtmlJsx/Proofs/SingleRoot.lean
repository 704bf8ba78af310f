import HtmlJsx.Proofs.Rendering

/-!
# A single root

A component renders one element.  A fragment with at most one top-level
element and no visible text is drawn without its container, and any other
inside it, so that one element is shown.

The two notions of being invisible differ in one character.  A no-break space
is white space where it is decided whether text is visible, but it is written
as a character reference, which white space trimming does not remove.  So the
output is nothing or one element exactly if no text at the top level of a
fragment that is drawn without its container holds a no-break space.
-/

namespace HtmlJsx

/-- Replacing line breaks keeps the solid characters. -/
theorem Passage.solids_reflow {lineBreak : Text} (blank : lineBreak.isBlank = true)
    (skipping : Bool) (text : Text) :
    Text.solids (reflow lineBreak skipping text) = Text.solids text := by
  induction text generalizing skipping with
  | nil => rfl
  | cons c rest induction =>
    rw [reflow]
    split
    · next skipped =>
      rw [Bool.and_eq_true] at skipped
      rw [Text.solids_cons_of_isBlank skipped.2, induction]
    · split
      · next newline =>
        rw [newline, Text.solids_append, Text.solids_eq_nil_iff.mpr blank,
          Text.solids_cons_of_isBlank (by decide), induction, List.nil_append]
      · cases solid : isBlank c with
        | true => rw [Text.solids_cons_of_isBlank solid, Text.solids_cons_of_isBlank solid, induction]
        | false => rw [Text.solids_cons_of_solid solid, Text.solids_cons_of_solid solid, induction]

namespace SingleRoot

open Outcome

/-! ## What is seen of blank text -/

/-- The reference that is written for a no-break space. -/
def reference : Text := "&nbsp;".toList

/-- The number of no-break spaces in the texts among some nodes. -/
def noBreakSpaces : List Node → Nat
  | [] => 0
  | .text content :: rest => content.count '\u00a0' + noBreakSpaces rest
  | _ :: rest => noBreakSpaces rest

theorem noBreakSpaces_eq_zero_iff {nodes : List Node} :
    noBreakSpaces nodes = 0 ↔ ∀ content, .text content ∈ nodes → '\u00a0' ∉ content := by
  induction nodes with
  | nil => simp [noBreakSpaces]
  | cons node rest induction =>
    cases node with
    | text content =>
      rw [noBreakSpaces, Nat.add_eq_zero_iff, List.count_eq_zero, induction]
      constructor
      · rintro ⟨first, others⟩ other member
        rcases List.mem_cons.mp member with same | later
        · cases same
          exact first
        · exact others other later
      · intro all
        exact ⟨all content List.mem_cons_self,
          fun other later => all other (List.mem_cons_of_mem _ later)⟩
    | _ => simp [noBreakSpaces, induction]

theorem noBreakSpaces_append (left right : List Node) :
    noBreakSpaces (left ++ right) = noBreakSpaces left + noBreakSpaces right := by
  induction left with
  | nil => simp [noBreakSpaces]
  | cons node rest induction =>
    cases node with
    | text content => rw [List.cons_append, noBreakSpaces, noBreakSpaces, induction, Nat.add_assoc]
    | _ => exact induction

/-- Of blank text only the references for its no-break spaces are solid. -/
theorem solids_guarded {content : Text} (blank : content.isBlank = true) :
    Text.solids (Passage.guarded content) = Text.copies (content.count '\u00a0') reference := by
  rw [Passage.guarded, Passage.escape, List.flatMap_assoc]
  induction content with
  | nil => rfl
  | cons c rest induction =>
    rw [Text.isBlank_cons, Bool.and_eq_true] at blank
    rw [List.flatMap_cons, Text.solids_append, induction blank.2]
    by_cases noBreak : c = '\u00a0'
    · subst noBreak
      rw [List.count_cons_self]
      rfl
    · have ampersand : c ≠ '&' := ne_of_isBlank blank.1 (by decide)
      have bracket : c ≠ '<' := ne_of_isBlank blank.1 (by decide)
      have closing : c ≠ '>' := ne_of_isBlank blank.1 (by decide)
      have brace : c ≠ '{' := ne_of_isBlank blank.1 (by decide)
      have closingBrace : c ≠ '}' := ne_of_isBlank blank.1 (by decide)
      have kept : (Passage.escapeChar c).flatMap Passage.guardBrace = [c] := by
        simp [Passage.escapeChar, Source.escapeChar, Passage.guardBrace, noBreak, ampersand,
          bracket, closing, brace, closingBrace]
      rw [kept, List.count_cons_of_ne noBreak, Text.solids_cons_of_isBlank blank.1]
      rfl

/-- Whether a node neither opens an element nor is a comment nor shows any text. -/
def isQuiet : Node → Bool
  | .element _ _ _ => false
  | .text content => content.isBlank
  | .comment _ => false
  | .special _ _ => true

theorem solids_text {unit : Text} (blank : unit.isBlank = true) {level : Int} {tag : Text}
    (shown : Property.movesContents (ElementName.toJsx tag) = false)
    {content written : Text} (contentBlank : content.isBlank = true)
    (rendered : Rendering.text unit level (some tag) false content = .ok written) :
    Text.solids written = Text.copies (content.count '\u00a0') reference := by
  rw [Rendering.text, Option.any_some, shown, if_neg Bool.false_ne_true,
    if_neg Bool.false_ne_true] at rendered
  split at rendered
  · obtain ⟨blanks, copied, rfl⟩ := map_eq_ok_iff.mp rendered
    have lineBreak : Text.isBlank ('\n' :: blanks) = true := by
      rw [Text.isBlank_cons, Rendering.isBlank_copiesOf blank copied]
      decide
    rw [Passage.running, Passage.solids_reflow lineBreak, solids_guarded contentBlank]
  · obtain rfl := Except.ok.inj rendered
    exact solids_guarded contentBlank

/-- Quiet nodes show their no-break spaces and nothing else. -/
theorem solids_nodes {unit : Text} (blank : unit.isBlank = true) {level : Int} {tag : Text}
    (shown : Property.movesContents (ElementName.toJsx tag) = false)
    {nodes : List Node} (quiet : nodes.all isQuiet = true) {written : Text}
    (rendered : Rendering.nodes unit level (some tag) false nodes = .ok written) :
    Text.solids written = Text.copies (noBreakSpaces nodes) reference := by
  induction nodes generalizing written with
  | nil =>
    cases rendered
    rfl
  | cons node rest induction =>
    rw [List.all_cons, Bool.and_eq_true] at quiet
    rw [Rendering.nodes, bind_eq_ok_iff, Rendering.flagAfter_false] at rendered
    obtain ⟨before, begun, rendered⟩ := rendered
    obtain ⟨after, found, joined⟩ := bind_eq_ok_iff.mp rendered
    obtain rfl := Except.ok.inj joined
    rw [Text.solids_append, induction quiet.2 found]
    cases node with
    | element tag attributes children => cases quiet.1
    | text content =>
      rw [solids_text blank shown quiet.1 begun, noBreakSpaces, Text.copies_add]
    | comment content => cases quiet.1
    | special kind content =>
      cases begun
      rfl

/-- A fragment that is drawn without its container has one element among quiet nodes, or none. -/
theorem split_of_hasOneTopLevel {nodes : List Node}
    (noComment : ∀ content, .comment content ∉ nodes)
    (alone : Conversion.hasOneTopLevel nodes = true) :
    nodes.all isQuiet = true ∨
      ∃ before root after, nodes = before ++ root :: after ∧ before.all isQuiet = true ∧
        root.isElement = true ∧ after.all isQuiet = true := by
  rw [Conversion.hasOneTopLevel, Bool.and_eq_true, decide_eq_true_eq, Bool.not_eq_true',
    List.any_eq_false] at alone
  obtain ⟨few, invisible⟩ := alone
  have quiet {node : Node} (member : node ∈ nodes) (other : node.isElement ≠ true) :
      isQuiet node = true := by
    cases node with
    | element tag attributes children => exact absurd rfl other
    | text content => simpa [Conversion.isVisibleText, isQuiet] using invisible _ member
    | comment content => exact absurd member (noComment content)
    | special kind content => rfl
  cases elements : nodes.filter Node.isElement with
  | nil =>
    refine .inl (List.all_eq_true.mpr fun node member => quiet member ?_)
    exact List.filter_eq_nil_iff.mp elements node member
  | cons root more =>
    rw [elements, List.length_cons] at few
    obtain rfl : more = [] := List.eq_nil_of_length_eq_zero (by omega)
    obtain ⟨before, after, rfl, others, isElement, rest⟩ := List.filter_eq_cons_iff.mp elements
    refine .inr ⟨before, root, after, rfl, ?_, isElement, ?_⟩
    · exact List.all_eq_true.mpr fun node member => quiet (by simp [member]) (others node member)
    · refine List.all_eq_true.mpr fun node member => quiet (by simp [member]) ?_
      exact List.filter_eq_nil_iff.mp rest node member

/-! ## Outputs with one root -/

/-- An element is all that an output shows: its drawing and a line break are the output. -/
def ShowsAlone (unit output : Text) (root : Node) : Prop :=
  ∃ drawn inside, Canvas.drawNode unit none root { level := 1 } = .ok drawn ∧
    drawn.output = '<' :: inside ++ ['>'] ∧
    output = Conversion.unindent unit drawn.output ++ ['\n']

/-- An output shows nothing, or one element: the container or one of its children. -/
def HasSingleRoot (unit : Text) (container : Node) (output : Text) : Prop :=
  output = ['\n'] ∨
    ∃ root ∈ container :: container.children, root.isElement = true ∧ ShowsAlone unit output root

theorem showsAlone_of_node {unit : Text} (blank : unit.isBlank = true) {parent : Option Text}
    {root : Node} (isElement : root.isElement = true) {text : Text}
    (rendered : Rendering.node unit 1 parent false root = .ok text) :
    ShowsAlone unit (Conversion.unindent unit text ++ ['\n']) root := by
  have orphan : Rendering.node unit 1 none false root = .ok text := by
    -- Only text depends on its parent.
    cases root with
    | element tag attributes children =>
      rw [Rendering.node] at rendered ⊢
      exact rendered
    | _ => cases isElement
  obtain ⟨inside, delimited⟩ := Rendering.node_element_eq_ok blank isElement rendered
  obtain ⟨drawn, succeeded, output⟩ :=
    (@Rendering.drawNode_eq_ok_iff unit blank none root { level := 1 } text).mpr orphan
  obtain rfl : drawn.output = text := output
  exact ⟨drawn, inside, succeeded, delimited, rfl⟩

/-- The solid characters of an output with a single root are none, or brackets around others. -/
theorem solids_of_hasSingleRoot {unit : Text} (blank : unit.isBlank = true) {container : Node}
    {output : Text} (single : HasSingleRoot unit container output) :
    Text.solids output = [] ∨ ∃ inside, Text.solids output = '<' :: inside ++ ['>'] := by
  rcases single with rfl | ⟨root, -, -, drawn, inside, -, delimited, rfl⟩
  · exact .inl rfl
  · refine .inr ⟨Text.solids inside, ?_⟩
    have newline : Text.solids ['\n'] = [] := rfl
    have closing : Text.solids ['>'] = ['>'] := rfl
    rw [Text.solids_append, Conversion.solids_unindent blank, delimited, newline,
      List.append_nil, Text.solids_append, Text.solids_cons_of_solid (by decide), closing]

/-- References at either end are neither nothing nor brackets around something. -/
theorem eq_zero_of_references {before after : Nat} {middle : Text}
    (single : Text.copies before reference ++ middle ++ Text.copies after reference = [] ∨
      ∃ inside, Text.copies before reference ++ middle ++ Text.copies after reference =
        '<' :: inside ++ ['>']) :
    before = 0 ∧ after = 0 := by
  constructor
  · cases before with
    | zero => rfl
    | succ before =>
      -- The text would begin with an ampersand.
      rw [Nat.add_comm, Text.copies_add] at single
      rcases single with wrong | ⟨inside, wrong⟩
      · cases wrong
      · cases wrong
  · cases after with
    | zero => rfl
    | succ after =>
      -- The text would end with a semicolon.
      rw [Text.copies_add] at single
      have last : (Text.copies before reference ++ middle ++
          (Text.copies after reference ++ Text.copies 1 reference)).getLast? = some ';' := by
        rw [← List.append_assoc, List.getLast?_append]
        rfl
      rcases single with wrong | ⟨inside, wrong⟩
      · rw [wrong] at last
        cases last
      · rw [wrong, List.getLast?_append] at last
        cases last

/-- An element among blanks is shown alone. -/
theorem finish_element {unit : Text} (blank : unit.isBlank = true) {before inside after : Text}
    (blankBefore : before.isBlank = true) (blankAfter : after.isBlank = true) :
    Conversion.finish unit (before ++ ('<' :: inside ++ ['>']) ++ after) =
      Conversion.unindent unit ('<' :: inside ++ ['>']) ++ ['\n'] := by
  have solid : isBlank '>' = false := by decide
  have trimmed : Text.trim (before ++ ('<' :: inside ++ ['>']) ++ after) =
      '<' :: inside ++ ['>'] := by
    apply Text.trim_eq blankBefore blankAfter
    · intro c first
      cases first
      decide
    · intro c last
      rw [List.getLast?_append] at last
      cases last
      decide
    · simp
  rw [Conversion.finish, trimmed, List.append_assoc, List.singleton_append,
    Conversion.unindent_append_solid blank solid, Conversion.unindent_append_solid blank solid,
    Conversion.unindent_newline, List.append_assoc]
  rfl

theorem nodes_around_eq_ok {unit : Text} {level : Int} {parent : Option Text}
    {before after : List Node} {root : Node} {written : Text}
    (rendered : Rendering.nodes unit level parent false (before ++ root :: after) = .ok written) :
    ∃ left text right, Rendering.nodes unit level parent false before = .ok left ∧
      Rendering.node unit level parent false root = .ok text ∧
      Rendering.nodes unit level parent false after = .ok right ∧
      written = left ++ text ++ right := by
  obtain ⟨left, others, renderedLeft, found, rfl⟩ := Rendering.nodes_append_eq_ok_iff.mp rendered
  rw [Rendering.flagAfterAll_false, Rendering.nodes, bind_eq_ok_iff, Rendering.flagAfter_false]
    at found
  obtain ⟨text, drawn, found⟩ := found
  obtain ⟨right, renderedRight, joined⟩ := bind_eq_ok_iff.mp found
  obtain rfl := Except.ok.inj joined
  exact ⟨left, text, right, renderedLeft, drawn, renderedRight, by simp⟩

/-- Copies of the reference leave a text blank only if there are none. -/
theorem isBlank_of_references {text : Text} {count : Nat}
    (solid : Text.solids text = Text.copies count reference) (none : count = 0) :
    text.isBlank = true := by
  rw [none] at solid
  exact Text.solids_eq_nil_iff.mp solid

/-- Quiet nodes alone are shown as nothing unless there are references to write. -/
theorem hasSingleRoot_quiet_iff {unit : Text} (blank : unit.isBlank = true) {container : Node}
    {drawn : Text} {count : Nat} (references : Text.solids drawn = Text.copies count reference) :
    HasSingleRoot unit container (Conversion.finish unit drawn) ↔ count = 0 := by
  constructor
  · intro single
    have ends := solids_of_hasSingleRoot blank single
    rw [Conversion.solids_finish blank, references] at ends
    have alone : Text.copies count reference ++ [] ++ Text.copies 0 reference =
        Text.copies count reference := by
      simp [Text.copies]
    rw [← alone] at ends
    exact (eq_zero_of_references ends).1
  · intro none
    have empty := isBlank_of_references references none
    refine .inl ?_
    rw [Conversion.finish, Text.trim_of_isBlank empty]
    exact Conversion.unindent_newline unit

/-- An element among quiet nodes is shown alone unless there are references to write. -/
theorem hasSingleRoot_around_iff {unit : Text} (blank : unit.isBlank = true)
    {container root : Node} (member : root ∈ container.children)
    (isElement : root.isElement = true) {parent : Option Text} {left text right : Text}
    (rendered : Rendering.node unit 1 parent false root = .ok text) {before after : Nat}
    (references : Text.solids left = Text.copies before reference)
    (referencesAfter : Text.solids right = Text.copies after reference) :
    HasSingleRoot unit container (Conversion.finish unit (left ++ text ++ right)) ↔
      before = 0 ∧ after = 0 := by
  constructor
  · intro single
    have ends := solids_of_hasSingleRoot blank single
    rw [Conversion.solids_finish blank, Text.solids_append, Text.solids_append, references,
      referencesAfter] at ends
    exact eq_zero_of_references ends
  · rintro ⟨noneBefore, noneAfter⟩
    refine .inr ⟨root, List.mem_cons_of_mem container member, isElement, ?_⟩
    obtain ⟨inside, rfl⟩ := Rendering.node_element_eq_ok blank isElement rendered
    rw [finish_element blank (isBlank_of_references references noneBefore)
      (isBlank_of_references referencesAfter noneAfter)]
    exact showsAlone_of_node blank isElement rendered

/-- A container is always shown alone. -/
theorem hasSingleRoot_container {unit : Text} (blank : unit.isBlank = true) {container : Node}
    (isElement : container.isElement = true) {text : Text}
    (rendered : Rendering.node unit 1 none false container = .ok text) :
    HasSingleRoot unit container
      (Conversion.finish unit (Text.copies Conversion.bodyLevels unit ++ text)) := by
  refine .inr ⟨container, List.mem_cons_self, isElement, ?_⟩
  obtain ⟨inside, rfl⟩ := Rendering.node_element_eq_ok blank isElement rendered
  have placed := @finish_element unit blank _ inside []
    (Text.isBlank_copies blank Conversion.bodyLevels) rfl
  rw [List.append_nil] at placed
  rw [placed]
  exact showsAlone_of_node blank isElement rendered

/--
A fragment without top-level comments is shown as nothing or as one element,
unless it is drawn without its container and holds a no-break space there.
-/
theorem hasSingleRoot_iff {unit : Text} (blank : unit.isBlank = true) {tag : Text}
    (shown : Property.movesContents (ElementName.toJsx tag) = false) {attributes : Attributes}
    {children : List Node} (noComment : ∀ content, .comment content ∉ children) {canvas : Canvas}
    (rendered : Conversion.render unit (.element tag attributes children) = .ok canvas) :
    HasSingleRoot unit (.element tag attributes children) canvas.output ↔
      (Conversion.hasOneTopLevel children = true → noBreakSpaces children = 0) := by
  obtain ⟨drawn, whole, output⟩ := Rendering.output_of_render blank rendered
  rw [output]
  rw [Rendering.whole] at whole
  split at whole
  · next alone =>
    have decided : (Conversion.hasOneTopLevel children = true → noBreakSpaces children = 0) ↔
        noBreakSpaces children = 0 :=
      ⟨fun none => none alone, fun none _ => none⟩
    rw [decided]
    rcases split_of_hasOneTopLevel noComment alone with quiet |
      ⟨before, root, after, same, quietBefore, isElement, quietAfter⟩
    · exact hasSingleRoot_quiet_iff blank (solids_nodes blank shown quiet whole)
    · obtain rfl : children = before ++ root :: after := same
      obtain ⟨left, text, right, renderedLeft, renderedRoot, renderedRight, rfl⟩ :=
        nodes_around_eq_ok whole
      have total : noBreakSpaces (before ++ root :: after) =
          noBreakSpaces before + noBreakSpaces after := by
        rw [noBreakSpaces_append]
        cases root with
        | element tag attributes children => rfl
        | _ => cases isElement
      rw [total, Nat.add_eq_zero_iff]
      exact hasSingleRoot_around_iff blank (by simp [Node.children]) isElement renderedRoot
        (solids_nodes blank shown quietBefore renderedLeft)
        (solids_nodes blank shown quietAfter renderedRight)
  · next wrapped =>
    obtain ⟨text, renderedRoot, rfl⟩ := map_eq_ok_iff.mp whole
    constructor
    · intro _ alone
      exact absurd alone wrapped
    · intro _
      exact hasSingleRoot_container blank rfl renderedRoot

/-! ## Conversions -/

/--
A conversion whose fragment has no top-level comment shows nothing or one
element exactly if, where the container is left out, no top-level text holds a
no-break space.
-/
theorem convert_hasSingleRoot_iff (options : Options) {html : Text} {container : Node}
    {canvas : Canvas}
    (parsed : Fragment.read options.backend (Conversion.markup html) = .ok container)
    (noComment : ∀ content, .comment content ∉ container.children)
    (converted : Conversion.convert options html = .ok canvas) :
    HasSingleRoot options.indent container canvas.output ↔
      (Conversion.hasOneTopLevel container.children = true →
        ∀ content, .text content ∈ container.children → '\u00a0' ∉ content) := by
  rw [Rendering.convert_eq_render parsed] at converted
  obtain ⟨children, rfl⟩ := Rendering.container_of_read parsed
  have shown : Property.movesContents (ElementName.toJsx Fragment.containerTag) = false := by
    decide +kernel
  have commentless : ∀ content, .comment content ∉ children := noComment
  rw [hasSingleRoot_iff options.indent_blank shown commentless converted,
    noBreakSpaces_eq_zero_iff]
  rfl

/-- Elements and text are no comments. -/
theorem comment_not_mem {nodes : List Node}
    (plain : (nodes.all fun node => node.isElement || node.isText) = true) :
    ∀ content, .comment content ∉ nodes := by
  intro content member
  cases List.all_eq_true.mp plain _ member

theorem convert_hasSingleRoot_between :
    ∃ container canvas,
      Fragment.read .builtIn (Conversion.markup "<p>x</p>&nbsp;<p>y</p>".toList) = .ok container ∧
      (∀ content, .comment content ∉ container.children) ∧
      Conversion.convert {} "<p>x</p>&nbsp;<p>y</p>".toList = .ok canvas ∧
      HasSingleRoot "  ".toList container canvas.output := by
  have plain : ((Fragment.read .builtIn
      (Conversion.markup "<p>x</p>&nbsp;<p>y</p>".toList)).toOption.any fun container =>
        (container.children.all fun node => node.isElement || node.isText) &&
          !Conversion.hasOneTopLevel container.children) = true := by
    decide +kernel
  have succeeds : (Conversion.convert {} "<p>x</p>&nbsp;<p>y</p>".toList).toOption.isSome = true := by
    decide +kernel
  cases parsed : Fragment.read .builtIn (Conversion.markup "<p>x</p>&nbsp;<p>y</p>".toList) with
  | error problem =>
    rw [parsed] at plain
    cases plain
  | ok container =>
    cases converted : Conversion.convert {} "<p>x</p>&nbsp;<p>y</p>".toList with
    | error interruption =>
      rw [converted] at succeeds
      cases succeeds
    | ok canvas =>
      rw [parsed, Except.toOption, Option.any_some, Bool.and_eq_true, Bool.not_eq_true'] at plain
      have noComment := comment_not_mem plain.1
      refine ⟨container, canvas, rfl, noComment, rfl, ?_⟩
      apply (convert_hasSingleRoot_iff {} parsed noComment converted).mpr
      intro alone
      rw [plain.2] at alone
      cases alone

/-- A no-break space before the only element stands before it in the output. -/
theorem noBreakSpace_before_root :
    ∃ canvas, Conversion.convert {} "&nbsp;<p>x</p>".toList = .ok canvas ∧
      canvas.output = "&nbsp;<p>x</p>\n".toList ∧
      ∀ container, ¬ HasSingleRoot "  ".toList container canvas.output := by
  have shown : (Conversion.convert {} "&nbsp;<p>x</p>".toList).toOption.map Canvas.output =
      some "&nbsp;<p>x</p>\n".toList := by
    decide +kernel
  cases converted : Conversion.convert {} "&nbsp;<p>x</p>".toList with
  | error interruption =>
    rw [converted] at shown
    cases shown
  | ok canvas =>
    rw [converted] at shown
    have output : canvas.output = "&nbsp;<p>x</p>\n".toList := Option.some.inj shown
    refine ⟨canvas, rfl, output, ?_⟩
    intro container single
    have ends := solids_of_hasSingleRoot (by decide) single
    rw [output] at ends
    rcases ends with wrong | ⟨inside, wrong⟩
    · cases wrong
    · cases wrong

end SingleRoot

end HtmlJsx
