import HtmlJsx.Jsx.Conversion
import HtmlJsx.Proofs.RawContents
import HtmlJsx.Proofs.Rendering

/-!
# Elements whose contents are moved

The contents of `textarea` and `style` elements are moved into a property, and
the element is written as one tag that closes itself.  Its children are drawn
all the same, before that tag is closed, so each kind of node has to be drawn
as nothing there.  Text is, and special nodes are drawn as nothing everywhere;
elements do not occur, since a fragment is settled before it is drawn.
Comments are not suppressed: in a `style` element there are none, but those of
a `textarea` element stand between its last property and the end of its tag.
-/

namespace HtmlJsx.MovedContents

open Outcome

/-- How a node is written that stands in an element whose contents are moved. -/
def remark : Node → Text
  | .comment content => Passage.comment content
  | _ => []

/-- What is written for the children of an element whose contents are moved. -/
def remarks (children : List Node) : Text :=
  children.flatMap remark

theorem remarks_eq_nil_iff {children : List Node} :
    remarks children = [] ↔ ∀ content, .comment content ∉ children := by
  rw [remarks, List.flatMap_eq_nil_iff]
  constructor
  · intro silent content member
    cases silent _ member
  · intro absent node member
    cases node with
    | comment content => exact absurd member (absent content)
    | _ => rfl

/-- A remark ends with the bracket of its expression. -/
theorem remarks_eq_nil_or (children : List Node) :
    remarks children = [] ∨ ∃ front, remarks children = front ++ ['}'] := by
  induction children with
  | nil => exact .inl rfl
  | cons child rest induction =>
    rw [remarks, List.flatMap_cons, ← remarks]
    rcases induction with silent | ⟨front, ended⟩
    · rw [silent, List.append_nil]
      cases child with
      | comment content =>
        refine .inr ⟨"\x7b/*".toList ++ Text.replace ['*', '/'] ['*', ' ', '/'] content ++
          ['*', '/'], ?_⟩
        simp [remark, Passage.comment]
      | _ => exact .inl rfl
    · exact .inr ⟨remark child ++ front, by rw [ended, List.append_assoc]⟩

/-- Children that are no elements are written as their remarks. -/
theorem nodes_eq_remarks {unit tag : Text} {level : Int} {inPre : Bool} {children : List Node}
    (moves : Property.movesContents (ElementName.toJsx tag) = true)
    (flat : ∀ child ∈ children, child.isElement = false) :
    Rendering.nodes unit level (some tag) inPre children = .ok (remarks children) := by
  induction children with
  | nil => rfl
  | cons child rest induction =>
    have kept : Rendering.flagAfter inPre child = inPre := by
      cases child with
      | element tag attributes children => cases flat _ List.mem_cons_self
      | _ => rfl
    have written : Rendering.node unit level (some tag) inPre child = .ok (remark child) := by
      cases child with
      | element tag attributes children => cases flat _ List.mem_cons_self
      | text content => rw [Rendering.node, Rendering.text, Option.any_some, if_pos moves]; rfl
      | _ => rfl
    have others := induction fun child member => flat child (List.mem_cons_of_mem _ member)
    rw [Rendering.nodes, written, kept]
    change (Rendering.nodes unit level (some tag) inPre rest >>= _) = _
    rw [others]
    rfl

theorem toJsx_eq_self {tag : Text} (moves : Property.movesContents tag = true) :
    ElementName.toJsx tag = tag := by
  have names : ElementName.toJsx Property.textareaElement = Property.textareaElement ∧
      ElementName.toJsx Property.styleElement = Property.styleElement := by
    decide +kernel
  rw [Property.movesContents, Bool.or_eq_true, decide_eq_true_eq, decide_eq_true_eq] at moves
  rcases moves with rfl | rfl
  · exact names.1
  · exact names.2

/-- The property that the contents of an element are moved into. -/
def holder (tag contents : Text) : Text :=
  if tag = Property.textareaElement then
    "defaultValue=\x7b".toList ++ Text.literal contents ++ ['}']
  else
    "dangerouslySetInnerHTML=\x7b\x7b__html: ".toList ++ Text.literal contents ++ " \x7d\x7d".toList

theorem ofContents_eq_holder {tag : Text} (moves : Property.movesContents tag = true)
    (contents : Text) : Property.ofContents tag contents = [holder tag contents] := by
  rw [Property.movesContents, Bool.or_eq_true, decide_eq_true_eq, decide_eq_true_eq] at moves
  rw [Property.ofContents, holder]
  split
  · rfl
  · next other => rw [if_pos (moves.resolve_left other)]

theorem holder_eq_append (tag contents : Text) : ∃ front, holder tag contents = front ++ ['}'] := by
  rw [holder]
  split
  · exact ⟨_, rfl⟩
  · refine ⟨"dangerouslySetInnerHTML=\x7b\x7b__html: ".toList ++ Text.literal contents ++
      [' ', '}'], ?_⟩
    simp

/-- The tag of an element with its properties, up to the last of them. -/
def opening (tag : Text) (properties : List Text) : Text :=
  '<' :: (tag ++ properties.flatMap (' ' :: ·))

/-- No indentation is taken off a tag that ends with a holder, nor off the remarks after it. -/
theorem trimSuffix_opening {unit : Text} (blank : unit.isBlank = true) (tag contents : Text)
    (given : List Text) (children : List Node) :
    Text.trimSuffix (opening tag (given ++ [holder tag contents]) ++ remarks children) unit =
      opening tag (given ++ [holder tag contents]) ++ remarks children := by
  have solid : isBlank '}' = false := by decide
  have empty : Text.trimSuffix [] unit = [] := by simp [Text.trimSuffix]
  have ended : ∃ front, opening tag (given ++ [holder tag contents]) ++ remarks children =
      front ++ ['}'] := by
    rcases remarks_eq_nil_or children with silent | ⟨front, shown⟩
    · obtain ⟨front, held⟩ := holder_eq_append tag contents
      rw [silent, List.append_nil, held]
      refine ⟨'<' :: (tag ++ given.flatMap (' ' :: ·) ++ ' ' :: front), ?_⟩
      simp [opening]
    · exact ⟨opening tag (given ++ [holder tag contents]) ++ front, by
        rw [shown, List.append_assoc]⟩
  obtain ⟨front, shape⟩ := ended
  rw [shape, Text.trimSuffix_append_solid blank solid, empty]

/-- An element whose contents are moved is its tag, with the remarks before its end. -/
theorem node_renamed_eq_ok {unit : Text} (blank : unit.isBlank = true) {level : Int}
    {parent : Option Text} {inPre : Bool} {tag : Text} {attributes : Attributes}
    {children : List Node} {given : List Text}
    (moves : Property.movesContents (ElementName.toJsx tag) = true)
    (flat : ∀ child ∈ children, child.isElement = false)
    (judged : Property.ofAttributes (ElementName.toJsx tag) attributes = .ok given) :
    Rendering.node unit level parent inPre (.element tag attributes children) =
      .ok (opening (ElementName.toJsx tag)
          (given ++ [holder (ElementName.toJsx tag)
            (Node.element tag attributes children).textContent]) ++
        remarks children ++ " />".toList) := by
  have closing : Canvas.isSelfClosing tag children = true := by
    rw [Canvas.isSelfClosing, moves, Bool.or_true]
  have started : Rendering.startTag tag attributes children =
      .ok (opening (ElementName.toJsx tag)
        (given ++ [holder (ElementName.toJsx tag)
          (Node.element tag attributes children).textContent])) := by
    rw [Rendering.startTag, Canvas.properties, judged, ofContents_eq_holder moves, closing]
    simp [opening, bind, Except.bind, pure, Except.pure, Except.map]
  have inside : Rendering.nodes unit (level + 1) (some tag) (inPre || Rendering.isPre tag)
      children = .ok (remarks children) :=
    nodes_eq_remarks moves flat
  rw [Rendering.node, started]
  change (Rendering.nodes unit (level + 1) (some tag) (inPre || Rendering.isPre tag) children
    >>= _) = _
  rw [inside]
  change Except.ok _ = _
  rw [trimSuffix_opening blank, Rendering.endTag, closing]
  rfl

theorem node_eq_ok {unit : Text} (blank : unit.isBlank = true) {level : Int}
    {parent : Option Text} {inPre : Bool} {tag : Text} {attributes : Attributes}
    {children : List Node} {given : List Text} (moves : Property.movesContents tag = true)
    (flat : ∀ child ∈ children, child.isElement = false)
    (judged : Property.ofAttributes tag attributes = .ok given) :
    Rendering.node unit level parent inPre (.element tag attributes children) =
      .ok (opening tag
          (given ++ [holder tag (Node.element tag attributes children).textContent]) ++
        remarks children ++ " />".toList) := by
  have named := toJsx_eq_self moves
  rw [← named] at moves judged
  rw [node_renamed_eq_ok blank moves flat judged, named]

/-- Drawing stops at an attribute that cannot be judged. -/
theorem drawNode_of_fault {unit : Text} {parent : Option Text} {tag : Text}
    {attributes : Attributes} {children : List Node} {canvas : Canvas} {fault : NumberFault}
    (named : ElementName.toJsx tag = tag)
    (unjudged : Property.ofAttributes tag attributes = .error fault) :
    Canvas.drawNode unit parent (.element tag attributes children) canvas =
      .error ⟨Problem.ofNumber fault, canvas⟩ := by
  rw [Canvas.drawNode, Canvas.openElement, Canvas.properties, named, unjudged]
  rfl

/--
In every fragment, a `textarea` or `style` element is drawn as its name and its
properties, the last of which holds its contents, then the comments among its
children, and the end of the tag.  So nothing stands between the last property
and the end exactly if no child is a comment; in a `style` element every child
is text.  Only an attribute that cannot be judged keeps it from being drawn.
-/
theorem drawNode_closes_at_once_iff (options : Options) {markup : Text} {container : Node}
    (parsed : Fragment.read .builtIn markup = .ok container) {parent : Option Text} {tag : Text}
    {attributes : Attributes} {children : List Node}
    (member : (parent, .element tag attributes children) ∈ container.outline none)
    (moves : tag = Property.textareaElement ∨ tag = Property.styleElement) (canvas : Canvas) :
    (∃ fault, Property.ofAttributes tag attributes = .error fault ∧
      Canvas.drawNode options.indent parent (.element tag attributes children) canvas =
        .error ⟨Problem.ofNumber fault, canvas⟩) ∨
    ∃ given after opened,
      Property.ofAttributes tag attributes = .ok given ∧
      opened = opening tag
        (given ++ [holder tag (Node.element tag attributes children).textContent]) ∧
      Canvas.drawNode options.indent parent (.element tag attributes children) canvas =
        .ok after ∧
      after.output = canvas.output ++ (opened ++ remarks children ++ " />".toList) ∧
      (after.output = canvas.output ++ (opened ++ " />".toList) ↔
        ∀ content, .comment content ∉ children) ∧
      (tag = Property.styleElement → ∀ child ∈ children, child.isText = true) := by
  have moved : Property.movesContents tag = true := by simpa [Property.movesContents] using moves
  have settled := (Fragment.everyElement_read parsed).of_mem_outline member
  have listed : tag ∈ Fragment.textOnlyElements := by
    rcases moves with rfl | rfl
    · decide
    · decide
  cases judged : Property.ofAttributes tag attributes with
  | error fault => exact .inl ⟨fault, rfl, drawNode_of_fault (toJsx_eq_self moved) judged⟩
  | ok given =>
    obtain ⟨after, drawn, output⟩ := (Rendering.drawNode_eq_ok_iff options.indent_blank).mpr
      (node_eq_ok options.indent_blank moved (settled.flat listed) judged)
    refine .inr ⟨given, after, _, rfl, rfl, drawn, output, ?_, ?_⟩
    · rw [output, ← remarks_eq_nil_iff]
      simp
    · intro raw
      exact settled.raw (by rw [raw]; decide)

/-- A `textarea` element with a comment, and a `style` element with what looks like one. -/
def remarked : Text := "<textarea>a<!--b--></textarea><style><!--c--></style>".toList

/-- The first of these elements as it is read. -/
def remarkedArea : Node :=
  .element Property.textareaElement [] [.text "a".toList, .comment "b".toList]

/-- The second of these elements as it is read. -/
def remarkedStyle : Node :=
  .element Property.styleElement [] [.text "<!--c-->".toList]

theorem drawNode_closes_at_once_iff_remarked :
    Fragment.read .builtIn remarked =
        .ok (.element Fragment.containerTag [] [remarkedArea, remarkedStyle]) ∧
      (∃ after,
        Canvas.drawNode "  ".toList (some Fragment.containerTag) remarkedArea {} = .ok after ∧
        after.output = "<textarea defaultValue=\x7b\"a\"\x7d\x7b/*b*/\x7d />".toList) ∧
      ∃ after,
        Canvas.drawNode "  ".toList (some Fragment.containerTag) remarkedStyle {} = .ok after ∧
        after.output =
          "<style dangerouslySetInnerHTML=\x7b\x7b__html: \"<!--c-->\" \x7d\x7d />".toList := by
  have found : (Lexer.tokens remarked).toOption =
      some [.start "textarea".toList [], .text "a".toList, .comment "b".toList,
        .stop "textarea".toList, .start "style".toList [], .text "<!--c-->".toList,
        .stop "style".toList] := by
    decide +kernel
  have parsed : Fragment.read .builtIn remarked =
      .ok (.element Fragment.containerTag [] [remarkedArea, remarkedStyle]) := by
    rw [Fragment.read]
    cases tokens : Lexer.tokens remarked with
    | error fault =>
      rw [tokens] at found
      cases found
    | ok tokens' =>
      rw [tokens] at found
      obtain rfl := Option.some.inj found
      rfl
  refine ⟨parsed, ?_, ?_⟩
  · rcases drawNode_closes_at_once_iff {} parsed (.tail _ (.head _)) (.inl rfl) {} with
      ⟨fault, unjudged, -⟩ | ⟨given, after, opened, judged, rfl, drawn, output, -⟩
    · cases unjudged
    · cases judged
      exact ⟨after, drawn, output⟩
  · rcases drawNode_closes_at_once_iff {} parsed (.tail _ (.tail _ (.tail _ (.tail _ (.head _)))))
        (.inr rfl) {} with
      ⟨fault, unjudged, -⟩ | ⟨given, after, opened, judged, rfl, drawn, output, -⟩
    · cases unjudged
    · cases judged
      exact ⟨after, drawn, output⟩

/-- A comment in a `textarea` element stands between its last property and its end. -/
theorem comment_before_end :
    (Conversion.convert {} "<textarea>a<!--b--></textarea>".toList).toOption.map Canvas.output =
        some "<textarea defaultValue=\x7b\"a\"\x7d\x7b/*b*/\x7d />\n".toList ∧
      (Canvas.drawNode "  ".toList (some Fragment.containerTag) remarkedArea {}).toOption.map
          Canvas.output ≠
        some (opening Property.textareaElement [holder Property.textareaElement "a".toList] ++
          " />".toList) := by
  decide +kernel

end HtmlJsx.MovedContents
