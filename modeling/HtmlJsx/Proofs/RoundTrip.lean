import HtmlJsx.Proofs.Serialization

/-!
# Reading what has been written

A forest is written node by node, and reading it node by node builds it up
again: a text that is written stays pending until the next node begins, and
every other node has been added to the innermost open element when its last
character is read.

Preformatted elements lose a line break at the start of their contents when
they are read.  A writer that puts one there writes the markup of a padded
forest, and settling a padded forest gives the forest back.
-/

namespace HtmlJsx

namespace Builder

/-- Add nodes one after the other. -/
def addAll (builder : Builder) (nodes : List Node) : Builder :=
  nodes.foldl add builder

theorem flush_of_pending {builder : Builder} (empty : builder.pending = []) :
    builder.flush = builder := by
  rw [flush, empty]
  rfl

/-- A run of characters is added as a text when it ends. -/
theorem flush_run {builder : Builder} (empty : builder.pending = []) {content : Text}
    (some : content ≠ []) :
    { builder with pending := content }.flush = builder.add (.text content) := by
  obtain ⟨roots, opened, pending, ignored⟩ := builder
  obtain rfl : pending = [] := empty
  rw [flush, if_neg (by simpa using some), add, add]
  cases opened <;> rfl

/-- Nodes become children of the innermost open element. -/
theorem addAll_opened (builder : Builder) (element : OpenElement) (outer : List OpenElement)
    (nodes : List Node) :
    addAll { builder with opened := element :: outer } nodes =
      { builder with
        opened := { element with children := element.children ++ nodes } :: outer } := by
  induction nodes generalizing element with
  | nil => simp [addAll]
  | cons node rest induction =>
    rw [addAll, List.foldl_cons, add]
    exact (induction _).trans (by simp)

theorem addAll_roots (nodes roots : List Node) :
    addAll { roots := roots } nodes = { roots := roots ++ nodes } := by
  induction nodes generalizing roots with
  | nil => simp [addAll]
  | cons node rest induction =>
    rw [addAll, List.foldl_cons, add]
    exact (induction _).trans (by simp)

theorem firstOfEach_eq_self {attributes : Attributes} (distinct : (attributes.map Prod.fst).Nodup) :
    firstOfEach attributes = attributes := by
  induction attributes with
  | nil => rfl
  | cons given rest induction =>
    obtain ⟨name, value⟩ := given
    rw [List.map_cons, List.nodup_cons] at distinct
    rw [firstOfEach, induction distinct.2, List.filter_eq_self.mpr]
    intro other member
    rw [bne_iff_ne]
    rintro rfl
    exact distinct.1 (List.mem_map.mpr ⟨other, member, rfl⟩)

/-- An element whose children have been added is added itself when it ends. -/
theorem close_addAll {builder filled : Builder} {tag : Text} {attributes : Attributes}
    {children : List Node}
    (added : filled.flush = addAll
      { builder with opened := ⟨tag, attributes, []⟩ :: builder.opened } children) :
    filled.close tag = builder.add (.element tag attributes children) := by
  rw [addAll_opened] at added
  rw [close, added]
  simp [depthOf?, closeMany, closeInnermost, OpenElement.close]

end Builder

namespace Serialization

open Lexer

/-! ## Forests -/

/-- Elements whose contents are not read as markup, or not kept as nodes. -/
def textElements : List Text :=
  ["script".toList, "style".toList, "textarea".toList, "title".toList, "xmp".toList]

/-- Elements that are written with a line break at the start of their contents. -/
def paddedElements : List Text :=
  ["pre".toList, "listing".toList]

mutual

/-- Whether a node can be written: what its names, its text or its attributes must be like. -/
def IsWritable : Node → Prop
  | .element tag attributes children =>
    isTagName tag = true ∧ tag ∉ voidElements ∧ tag ∉ textElements ∧
      (∀ given ∈ attributes, isAttributeName given.1 = true) ∧
      (attributes.map Prod.fst).Nodup ∧ AreWritable children
  | .text content => content ≠ []
  | .comment content => IsCommentText content
  | .special _ _ => False

/-- Whether sibling nodes can be written: no two texts are side by side. -/
def AreWritable : List Node → Prop
  | [] => True
  | first :: rest =>
    IsWritable first ∧ (first.isText = true → rest.head?.any Node.isText = false) ∧
      AreWritable rest

end

mutual

/-- The markup of a node; with padding, a line break follows the start tags that swallow one. -/
def node (padding : Bool) : Node → Text
  | .element tag attributes children =>
    startTag tag attributes ++
      (if padding && paddedElements.contains tag then ['\n'] else []) ++
      nodes padding children ++ endTag tag
  | .text content => Source.escape content
  | .comment content => comment content
  | .special _ _ => []

/-- The markup of sibling nodes. -/
def nodes (padding : Bool) : List Node → Text
  | [] => []
  | first :: rest => node padding first ++ nodes padding rest

end

/-! ## Reading without padding -/

mutual

/-- A node that is not text has been added when it has been read. -/
theorem leads_node : (written : Node) → written.isText = false → IsWritable written →
    (builder : Builder) → builder.ignored = [] →
    Leads (node false written) builder (builder.flush.add written)
  | .element tag attributes children, _, writable, builder, ignored => by
    obtain ⟨tagged, filled, markup, named, distinct, below⟩ := writable
    have notRaw : tag ∉ rawElements := fun raw =>
      markup ((by decide : rawElements ⊆ textElements) raw)
    have opened : builder.take (.start tag attributes) =
        { builder.flush with
          opened := ⟨tag, attributes, []⟩ :: builder.flush.opened } := by
      rw [Builder.take, Builder.openElement, Builder.firstOfEach_eq_self distinct]
      simp [filled]
    obtain ⟨after, leads, added, still⟩ := leads_nodes children below
      (builder.take (.start tag attributes)) (by rw [opened]; simpa using ignored)
      (by rw [opened]; simp)
    have ready : (builder.take (.start tag attributes)).flush =
        builder.take (.start tag attributes) := by
      apply Builder.flush_of_pending
      rw [opened]
      simp
    rw [ready, opened] at added
    have stopped : after.take (.stop tag) = builder.flush.add (.element tag attributes children) := by
      rw [Builder.take, still]
      exact Builder.close_addAll added
    have ends := leads_endTag tagged after
    rw [stopped] at ends
    rw [node]
    simpa using ((leads_startTag tagged notRaw named builder).trans leads).trans ends
  | .text _, other, _, _, _ => by cases other
  | .comment content, _, writable, builder, _ => by
    rw [node]
    exact leads_comment writable builder
  | .special _ _, _, writable, _, _ => by cases writable

/-- Nodes that have been read have been added, but for a text at the end that is pending. -/
theorem leads_nodes : (written : List Node) → AreWritable written → (builder : Builder) →
    builder.ignored = [] →
    (builder.pending ≠ [] → written.head?.any Node.isText = false) →
    ∃ after, Leads (nodes false written) builder after ∧
      after.flush = builder.flush.addAll written ∧ after.ignored = []
  | [], _, builder, ignored, _ => ⟨builder, Leads.refl builder, rfl, ignored⟩
  | first :: rest, writable, builder, ignored, apart => by
    obtain ⟨writableFirst, separate, writableRest⟩ := writable
    cases isText : first.isText with
    | true =>
      obtain ⟨content, rfl⟩ := Node.eq_text_of_isText isText
      have none : builder.pending = [] := by
        cases pending : builder.pending with
        | nil => rfl
        | cons c more => cases apart (by simp [pending])
      obtain ⟨after, leads, added, still⟩ := leads_nodes rest writableRest
        { builder with pending := content } ignored (fun _ => separate rfl)
      have read := leads_escape content builder
      rw [none, List.nil_append] at read
      refine ⟨after, ?_, ?_, still⟩
      · rw [nodes, node]
        exact read.trans leads
      · rw [added, Builder.flush_run none writableFirst, Builder.flush_of_pending none]
        rfl
    | false =>
      obtain ⟨after, leads, added, still⟩ := leads_nodes rest writableRest
        (builder.flush.add first) (by simpa using ignored) (by simp)
      refine ⟨after, ?_, ?_, still⟩
      · rw [nodes]
        exact (leads_node first isText writableFirst builder ignored).trans leads
      · rw [added, Builder.flush_of_pending (by simp)]
        rfl

end

/-- The tokens of a forest that is written without padding make up the forest. -/
theorem ofTokens_nodes {forest : List Node} (writable : AreWritable forest) :
    ∃ found, tokens (nodes false forest) = .ok found ∧ Node.ofTokens found = forest := by
  obtain ⟨after, leads, added, -⟩ := leads_nodes forest writable {} rfl (by simp)
  obtain ⟨found, lexed, built⟩ := tokens_of_leads leads
  refine ⟨found, lexed, ?_⟩
  have roots : after.flush = { roots := forest } := by
    rw [added, Builder.flush_of_pending rfl]
    exact Builder.addAll_roots forest []
  rw [Node.ofTokens, built, Builder.finish, roots]
  rfl

/-! ## Padding -/

mutual

/-- A node with the line breaks that are written for padding as part of its texts. -/
def pad : Node → Node
  | .element tag attributes children =>
    .element tag attributes
      (if paddedElements.contains tag then Fragment.joinNode (.text ['\n']) (padAll children)
      else padAll children)
  | other => other

/-- Sibling nodes with the line breaks that are written for padding. -/
def padAll : List Node → List Node
  | [] => []
  | first :: rest => pad first :: padAll rest

end

theorem isText_pad (written : Node) : (pad written).isText = written.isText := by
  cases written with
  | element tag attributes children => rfl
  | text content => rfl
  | comment content => rfl
  | special kind content => rfl

theorem isText_head?_padAll (written : List Node) :
    (padAll written).head?.any Node.isText = written.head?.any Node.isText := by
  cases written with
  | nil => rfl
  | cons first rest => exact isText_pad first

/-- A line break is put before a text at the start, or else it becomes a text of its own. -/
theorem joinNode_cases (written : List Node) :
    (∃ content rest, written = .text content :: rest ∧
      Fragment.joinNode (.text ['\n']) written = .text ('\n' :: content) :: rest) ∨
    written.head?.any Node.isText = false ∧
      Fragment.joinNode (.text ['\n']) written = .text ['\n'] :: written := by
  cases written with
  | nil => exact .inr ⟨rfl, rfl⟩
  | cons first rest =>
    cases first with
    | text content => exact .inl ⟨content, rest, rfl, rfl⟩
    | element tag attributes children => exact .inr ⟨rfl, rfl⟩
    | comment content => exact .inr ⟨rfl, rfl⟩
    | special kind content => exact .inr ⟨rfl, rfl⟩

/-- Putting a line break before nodes that can be written gives such nodes. -/
theorem areWritable_joinNode {written : List Node} (writable : AreWritable written) :
    AreWritable (Fragment.joinNode (.text ['\n']) written) := by
  rcases joinNode_cases written with ⟨content, rest, rfl, joined⟩ | ⟨apart, joined⟩
  · rw [joined]
    exact ⟨List.cons_ne_nil _ _, writable.2⟩
  · rw [joined]
    exact ⟨List.cons_ne_nil _ _, fun _ => apart, writable⟩

mutual

theorem isWritable_pad : (written : Node) → IsWritable written → IsWritable (pad written)
  | .element tag attributes children, writable => by
    obtain ⟨tagged, filled, markup, named, distinct, below⟩ := writable
    have padded := areWritable_padAll children below
    rw [pad]
    refine ⟨tagged, filled, markup, named, distinct, ?_⟩
    split
    · exact areWritable_joinNode padded
    · exact padded
  | .text _, writable => writable
  | .comment _, writable => writable
  | .special _ _, writable => writable

theorem areWritable_padAll : (written : List Node) → AreWritable written →
    AreWritable (padAll written)
  | [], _ => trivial
  | first :: rest, writable => by
    obtain ⟨writableFirst, separate, writableRest⟩ := writable
    refine ⟨isWritable_pad first writableFirst, ?_, areWritable_padAll rest writableRest⟩
    rw [isText_pad, isText_head?_padAll]
    exact separate

end

theorem nodes_joinNode (written : List Node) :
    nodes false (Fragment.joinNode (.text ['\n']) written) = '\n' :: nodes false written := by
  rcases joinNode_cases written with ⟨content, rest, rfl, joined⟩ | ⟨-, joined⟩
  · rw [joined]
    rfl
  · rw [joined]
    rfl

mutual

/-- Writing with padding is writing what has been padded. -/
theorem node_pad : (written : Node) → node true written = node false (pad written)
  | .element tag attributes children => by
    rw [pad, node, node, nodes_padAll children]
    cases paddedElements.contains tag with
    | false => rfl
    | true => simp [nodes_joinNode]
  | .text _ => rfl
  | .comment _ => rfl
  | .special _ _ => rfl

theorem nodes_padAll : (written : List Node) → nodes true written = nodes false (padAll written)
  | [] => rfl
  | first :: rest => by
    rw [padAll, nodes, nodes, node_pad first, nodes_padAll rest]

end

theorem settleAll_joinNode (written : List Node) :
    Fragment.settleAll true (Fragment.joinNode (.text ['\n']) written) =
      Fragment.joinNode (.text ['\n']) (Fragment.settleAll true written) := by
  cases written with
  | nil => rfl
  | cons first rest =>
    cases first with
    | text content => rfl
    | element tag attributes children => rfl
    | comment content => rfl
    | special kind content => rfl

theorem dropNewline_joinNode {written : List Node} (writable : AreWritable written) :
    Fragment.dropNewline (Fragment.joinNode (.text ['\n']) written) = written := by
  rcases joinNode_cases written with ⟨content, rest, rfl, joined⟩ | ⟨-, joined⟩
  · rw [joined]
    cases content with
    | nil => exact absurd rfl writable.1
    | cons c more => rfl
  · rw [joined]
    rfl

mutual

/-- Settling takes the padding away. -/
theorem settle_pad : (written : Node) → IsWritable written →
    Fragment.settle true (pad written) = written
  | .element tag attributes children, writable => by
    obtain ⟨-, -, markup, -, -, below⟩ := writable
    have kept : Fragment.textOnlyElements.contains tag = false := by
      rw [← Bool.not_eq_true, List.contains_iff_mem]
      exact fun member => markup ((by decide : Fragment.textOnlyElements ⊆ textElements) member)
    have settled := settleAll_padAll children below
    rw [pad, Fragment.settle, kept, Bool.false_and, if_neg Bool.false_ne_true]
    cases padded : paddedElements.contains tag with
    | true =>
      have leading : Fragment.leadingNewlineElements.contains tag = true := by
        rw [List.contains_iff_mem] at padded ⊢
        exact (by decide : paddedElements ⊆ Fragment.leadingNewlineElements) padded
      rw [leading, Bool.and_self, if_pos rfl, if_pos rfl, settleAll_joinNode, settled,
        dropNewline_joinNode below]
    | false =>
      have plain : Fragment.leadingNewlineElements.contains tag = false := by
        rw [← Bool.not_eq_true, List.contains_iff_mem]
        intro leading
        have cases : ∀ name ∈ Fragment.leadingNewlineElements,
            name ∈ paddedElements ∨ name ∈ textElements := by decide
        rcases cases tag leading with member | member
        · rw [← List.contains_iff_mem, padded] at member
          cases member
        · exact markup member
      rw [plain, Bool.and_false, if_neg Bool.false_ne_true, if_neg Bool.false_ne_true, settled]
  | .text _, _ => rfl
  | .comment _, _ => rfl
  | .special _ _, _ => rfl

theorem settleAll_padAll : (written : List Node) → AreWritable written →
    Fragment.settleAll true (padAll written) = written
  | [], _ => rfl
  | first :: rest, writable => by
    rw [padAll, Fragment.settleAll, settle_pad first writable.1,
      settleAll_padAll rest writable.2.2]

end

/-- Reading the markup of a forest gives a container with exactly that forest. -/
theorem readNamed_serialized (forest : List Node) (writable : AreWritable forest) :
    Fragment.readNamed "html.parser".toList (nodes true forest) =
      .ok (.element "div".toList [] forest) := by
  obtain ⟨found, lexed, built⟩ := ofTokens_nodes (areWritable_padAll forest writable)
  rw [← nodes_padAll] at lexed
  change Fragment.read .builtIn (nodes true forest) = _
  rw [Fragment.read, lexed]
  dsimp only
  rw [Fragment.topLevel, built, settleAll_padAll forest writable]
  rfl

/-- A forest with characters to be escaped, a line break to be padded, a comment and a blank text. -/
def mixedForest : List Node :=
  [.element "pre".toList [("data-x".toList, "\"&\n".toList), ("id".toList, [])]
      [.text "\n<".toList, .element "b".toList [] []],
    .comment "-y".toList, .text " ".toList]

theorem readNamed_mixedForest :
    nodes true mixedForest =
        "<pre data-x=\"&quot;&amp;\n\" id=\"\">\n\n&lt;<b></b></pre><!---y--> ".toList ∧
      Fragment.readNamed "html.parser".toList (nodes true mixedForest) =
        .ok (.element "div".toList [] mixedForest) := by
  have proper : IsCommentText "-y".toList := by
    intro blanks _ within
    have bracket : '>' ∈ "-y".toList := within.subset (by simp)
    revert bracket
    decide
  constructor
  · decide +kernel
  · apply readNamed_serialized
    refine ⟨⟨by decide, by decide, by decide, by decide, by decide, ?_⟩, by simp [Node.isText],
      ⟨proper, by simp [Node.isText], ?_⟩⟩
    · exact ⟨List.cons_ne_nil _ _, fun _ => rfl,
        ⟨⟨by decide, by decide, by decide, by simp, by simp, trivial⟩, by simp [Node.isText],
          trivial⟩⟩
    · exact ⟨List.cons_ne_nil _ _, fun _ => rfl, trivial⟩

end Serialization

end HtmlJsx
