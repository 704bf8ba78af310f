import HtmlJsx.Proofs.RoundTrip

/-!
# Markup in pieces

Markup as a sequence of texts, balanced elements, start tags of void elements,
and comments.  Reading such pieces inside an open element adds nodes to that
element, and what the nodes are depends on the pieces alone.  So the markup
that is made of the nodes again can be given piece by piece as well: names are
lowered, attributes are sorted and their values escaped, and the tags of void
elements are closed.
-/

namespace HtmlJsx

open Lexer

/-- A piece of markup. -/
inductive Piece where
  | text (content : Text)
  | element (tag : Text) (attributes : Attributes) (contents : List Piece)
  | void (tag : Text) (attributes : Attributes)
  | comment (content : Text)

namespace Piece

/-! ## What is written -/

/-- A start tag with all values between double quotes. -/
def startTag (tag : Text) (attributes : Attributes) : Text :=
  '<' :: tag ++ attributes.flatMap Serialization.quotation ++ ['>']

mutual

/-- A piece as it is written. -/
def source : Piece → Text
  | .text content => content
  | .element tag attributes contents =>
    startTag tag attributes ++ sources contents ++ Serialization.endTag tag
  | .void tag attributes => startTag tag attributes
  | .comment content => Serialization.comment content

/-- Pieces as they are written one after the other. -/
def sources : List Piece → Text
  | [] => []
  | first :: rest => source first ++ sources rest

end

/-- The characters that end a name or begin something else. -/
def delimiters : List Char := ['"', '\'', '<', '>', '/', '=', '&']

/-- An attribute that can be written between double quotes without references. -/
structure IsQuotable (given : Text × Text) : Prop where
  nonempty : given.1 ≠ []
  solid : ∀ c ∈ given.1, isBlank c = false
  undelimited : ∀ c ∈ given.1, c ∉ delimiters
  unreferenced : '&' ∉ given.2
  unquoted : '"' ∉ given.2

mutual

/-- Whether a piece is what its constructor says when it is written. -/
def IsProper : Piece → Prop
  | .text content => '&' ∉ content ∧ '<' ∉ content ∧ '>' ∉ content
  | .element tag attributes contents =>
    Serialization.IsElementName tag ∧ tag ∉ rawElements ∧ (∀ given ∈ attributes, IsQuotable given) ∧
      AreProper contents
  | .void tag attributes => tag ∈ voidElements ∧ ∀ given ∈ attributes, IsQuotable given
  | .comment content => Serialization.IsCommentText content

/-- Whether all pieces are proper. -/
def AreProper : List Piece → Prop
  | [] => True
  | first :: rest => IsProper first ∧ AreProper rest

end

theorem IsQuotable.isKey {given : Text × Text} (quotable : IsQuotable given) :
    Serialization.IsKey given.1 := by
  have solid := quotable.solid
  have undelimited := quotable.undelimited
  obtain ⟨first, more, shape⟩ := List.exists_cons_of_ne_nil quotable.nonempty
  have continues : ∀ c ∈ given.1, Tag.startsName c = true ∧ Tag.continuesName c = true := by
    intro c member
    have blank := solid c member
    have apart := undelimited c member
    simp only [delimiters, List.mem_cons, not_or] at apart
    simp [Tag.startsName, Tag.continuesName, blank, apart]
  rw [shape] at continues ⊢
  exact ⟨first, more, rfl, (continues first List.mem_cons_self).1,
    fun c member => (continues c (List.mem_cons_of_mem first member)).2⟩

/-- Small letters, digits and hyphens make a name that can be written as it is. -/
theorem IsQuotable.of_isAttributeName {given : Text × Text}
    (named : Serialization.isAttributeName given.1 = true) (unreferenced : '&' ∉ given.2)
    (unquoted : '"' ∉ given.2) : IsQuotable given where
  nonempty := by
    intro empty
    rw [empty] at named
    cases named
  solid c member :=
    (Serialization.IsPlain.of_isWordChar
      (Serialization.isWordChar_of_isAttributeName named c member)).solid
  undelimited c member := by
    have each : delimiters.all (fun c => !Serialization.isWordChar c) = true := by decide
    intro delimiting
    have other := List.all_eq_true.mp each c delimiting
    rw [Serialization.isWordChar_of_isAttributeName named c member] at other
    cases other
  unreferenced := unreferenced
  unquoted := unquoted

theorem resolve_eq_self {value : Text} (unreferenced : '&' ∉ value) :
    Reference.resolve value = .ok value := by
  rw [Reference.resolve]
  induction value with
  | nil => rfl
  | cons c rest induction =>
    rw [List.mem_cons, not_or] at unreferenced
    rw [Reference.resolveFrom, if_neg (fun same => unreferenced.1 same.symm),
      induction unreferenced.2]
    rfl

/-- Attributes as they are read: with lower-case names. -/
def lowered (attributes : Attributes) : Attributes :=
  attributes.map fun given => (Text.lower given.1, given.2)

theorem resolveAttributes_quotable {attributes : Attributes}
    (quotable : ∀ given ∈ attributes, IsQuotable given) :
    Tag.resolveAttributes attributes = .ok (lowered attributes) := by
  have resolved : Tag.resolveAttributes (attributes.map fun given => (given.1, id given.2)) =
      .ok (lowered attributes) :=
    Serialization.resolveAttributes_map fun given member =>
      resolve_eq_self (quotable given member).unreferenced
  have shape : (attributes.map fun given => (given.1, id given.2)) = attributes :=
    List.map_id attributes
  rw [shape] at resolved
  exact resolved

/-! ## What is read -/

/-- The attributes that an element keeps: of each name the first. -/
def kept (attributes : Attributes) : Attributes :=
  Builder.firstOfEach (lowered attributes)

end Piece

/-- The children that an open element has so far, and the characters of the current run. -/
structure Draft where
  children : List Node := []
  pending : Text := []

namespace Draft

/-- The children when the current run ends. -/
def nodes (draft : Draft) : List Node :=
  if draft.pending.isEmpty then draft.children else draft.children ++ [.text draft.pending]

/-- The draft after a node that ends the current run. -/
def followedBy (draft : Draft) (node : Node) : Draft where
  children := draft.nodes ++ [node]

mutual

/-- The draft after a piece; the contents of a void element are not its own. -/
def add : Draft → Piece → Draft
  | draft, .text content => { draft with pending := draft.pending ++ content }
  | draft, .element tag attributes contents =>
    if voidElements.contains tag then
      addAll (draft.followedBy (.element tag (Piece.kept attributes) [])) contents
    else
      draft.followedBy (.element tag (Piece.kept attributes) (addAll {} contents).nodes)
  | draft, .void tag attributes => draft.followedBy (.element tag (Piece.kept attributes) [])
  | draft, .comment content => draft.followedBy (.comment content)

/-- The draft after pieces one after the other. -/
def addAll : Draft → List Piece → Draft
  | draft, [] => draft
  | draft, first :: rest => addAll (add draft first) rest

end

end Draft

/-- An open element but for its children, and what is around it. -/
structure Frame where
  roots : List Node := []
  tag : Text
  attributes : Attributes := []
  outer : List OpenElement := []

namespace Frame

/-- The builder whose innermost open element stands in a frame and holds a draft. -/
def holding (frame : Frame) (draft : Draft) (ignored : List Text) : Builder where
  roots := frame.roots
  opened := ⟨frame.tag, frame.attributes, draft.children⟩ :: frame.outer
  pending := draft.pending
  ignored := ignored

/-- The frame of an element that is opened where a draft is held. -/
def inside (frame : Frame) (draft : Draft) (tag : Text) (attributes : Attributes) : Frame where
  roots := frame.roots
  tag := tag
  attributes := attributes
  outer := ⟨frame.tag, frame.attributes, draft.nodes⟩ :: frame.outer

variable (frame : Frame) (draft : Draft) (ignored : List Text)

theorem flush_holding : (frame.holding draft ignored).flush =
    frame.holding { children := draft.nodes } ignored := by
  obtain ⟨children, pending⟩ := draft
  cases pending with
  | nil => rfl
  | cons c rest => rfl

theorem take_text (content : Text) :
    (frame.holding draft ignored).take (.text content) =
      frame.holding (draft.add (.text content)) ignored := rfl

theorem take_comment (content : Text) :
    (frame.holding draft ignored).take (.comment content) =
      frame.holding (draft.add (.comment content)) ignored := by
  rw [Builder.take, flush_holding, Draft.add]
  rfl

theorem take_start {tag : Text} (filled : tag ∉ voidElements) (attributes : Attributes) :
    (frame.holding draft ignored).take (.start tag attributes) =
      (frame.inside draft tag (Builder.firstOfEach attributes)).holding {} ignored := by
  rw [Builder.take, if_neg (by simpa using filled), Builder.openElement, flush_holding]
  rfl

theorem take_start_void {tag : Text} (void : tag ∈ voidElements) (attributes : Attributes) :
    (frame.holding draft ignored).take (.start tag attributes) =
      frame.holding (draft.followedBy (.element tag (Builder.firstOfEach attributes) []))
        (tag :: ignored) := by
  rw [Builder.take, if_pos (by simpa using void), Builder.openElement, flush_holding]
  rfl

theorem take_stop_void {tag : Text} (waiting : tag ∈ ignored) :
    (frame.holding draft ignored).take (.stop tag) = frame.holding draft (ignored.erase tag) := by
  have known : (frame.holding draft ignored).ignored.contains tag = true := by
    simpa [holding] using waiting
  rw [Builder.take, if_pos known]
  rfl

theorem take_stop (around : Draft) {tag : Text} (attributes : Attributes) (taken : tag ∉ ignored) :
    ((frame.inside around tag attributes).holding draft ignored).take (.stop tag) =
      frame.holding (around.followedBy (.element tag attributes draft.nodes)) ignored := by
  have unknown : ¬ ((frame.inside around tag attributes).holding draft ignored).ignored.contains
      tag = true := by
    simpa [holding] using taken
  rw [Builder.take, if_neg unknown, Builder.close, flush_holding]
  simp [holding, inside, Builder.depthOf?, Builder.closeMany, Builder.closeInnermost, Builder.add,
    OpenElement.close, Draft.followedBy]

theorem take_start_first {tag : Text} (filled : tag ∉ voidElements) (attributes : Attributes) :
    ({} : Builder).take (.start tag attributes) =
      holding { tag := tag, attributes := Builder.firstOfEach attributes } {} [] := by
  rw [Builder.take, if_neg (by simpa using filled)]
  rfl

theorem take_stop_first {tag : Text} (attributes : Attributes) (taken : tag ∉ ignored) :
    (holding { tag := tag, attributes := attributes } draft ignored).take (.stop tag) =
      { roots := [.element tag attributes draft.nodes], ignored := ignored } := by
  have unknown : ¬ (holding { tag := tag, attributes := attributes } draft
      ignored).ignored.contains tag = true := by
    simpa [holding] using taken
  rw [Builder.take, if_neg unknown, Builder.close, flush_holding]
  simp [holding, Builder.depthOf?, Builder.closeMany, Builder.closeInnermost, Builder.add,
    OpenElement.close]

end Frame

namespace Piece

/-- Void elements have been met since: their end tags are ignored if they come. -/
def Awaits (before after : List Text) : Prop :=
  ∃ more, (∀ tag ∈ more, tag ∈ voidElements) ∧ after.Perm (more ++ before)

theorem Awaits.refl (ignored : List Text) : Awaits ignored ignored :=
  ⟨[], by simp, .refl _⟩

theorem Awaits.trans {first second third : List Text} (begins : Awaits first second)
    (ends : Awaits second third) : Awaits first third := by
  obtain ⟨more, void, perm⟩ := begins
  obtain ⟨others, voidOthers, permOthers⟩ := ends
  refine ⟨others ++ more, ?_, ?_⟩
  · intro tag member
    rcases List.mem_append.mp member with inOthers | inMore
    · exact voidOthers tag inOthers
    · exact void tag inMore
  · rw [List.append_assoc]
    exact permOthers.trans (perm.append_left others)

theorem Awaits.void {before after : List Text} (awaits : Awaits before after)
    (void : ∀ tag ∈ before, tag ∈ voidElements) : ∀ tag ∈ after, tag ∈ voidElements := by
  obtain ⟨more, voidMore, perm⟩ := awaits
  intro tag member
  rcases List.mem_append.mp (perm.mem_iff.mp member) with inMore | inBefore
  · exact voidMore tag inMore
  · exact void tag inBefore

/-- An end tag that comes for a void element is not awaited any more. -/
theorem Awaits.erase {before after : List Text} {tag : Text} (awaits : Awaits (tag :: before) after) :
    tag ∈ after ∧ Awaits before (after.erase tag) := by
  obtain ⟨more, void, perm⟩ := awaits
  have perm : after.Perm (tag :: (more ++ before)) := perm.trans List.perm_middle
  refine ⟨perm.mem_iff.mpr List.mem_cons_self, more, void, ?_⟩
  have erased := perm.erase tag
  rwa [List.erase_cons_head] at erased

theorem escape_eq_self {content : Text} (ampersand : '&' ∉ content) (less : '<' ∉ content)
    (greater : '>' ∉ content) : Source.escape content = content := by
  induction content with
  | nil => rfl
  | cons c rest induction =>
    rw [List.mem_cons, not_or] at ampersand less greater
    rw [Source.escape, List.flatMap_cons, ← Source.escape, Source.escapeChar,
      if_neg (Ne.symm ampersand.1), if_neg (Ne.symm less.1), if_neg (Ne.symm greater.1),
      induction ampersand.2 less.2 greater.2]
    rfl

theorem leads_start {tag : Text} (named : Serialization.IsElementName tag)
    (markup : tag ∉ rawElements) {attributes : Attributes}
    (quotable : ∀ given ∈ attributes, IsQuotable given) (builder : Builder) :
    Leads (startTag tag attributes) builder (builder.take (.start tag (lowered attributes))) :=
  Serialization.leads_quotations named markup
    (fun given member => ⟨(quotable given member).isKey, (quotable given member).unquoted⟩)
    (resolveAttributes_quotable quotable) builder

theorem isElementName_of_void {tag : Text} (void : tag ∈ voidElements) :
    Serialization.IsElementName tag ∧ tag ∉ rawElements := by
  have each : voidElements.all (fun tag => Serialization.isTagName tag && !rawElements.contains tag) =
      true := by
    decide +kernel
  have holds := List.all_eq_true.mp each tag void
  rw [Bool.and_eq_true, Bool.not_eq_true', List.contains_eq_mem, decide_eq_false_iff_not] at holds
  exact ⟨.of_isTagName holds.1, holds.2⟩

mutual

/-- Reading a piece in an open element adds the piece to the draft that the element holds. -/
theorem leads_source : (piece : Piece) → IsProper piece → (frame : Frame) → (draft : Draft) →
    (ignored : List Text) → (∀ tag ∈ ignored, tag ∈ voidElements) →
    ∃ later, Awaits ignored later ∧
      Leads piece.source (frame.holding draft ignored) (frame.holding (draft.add piece) later)
  | .text content, proper, frame, draft, ignored, voids => by
    obtain ⟨ampersand, less, greater⟩ := proper
    have read := Serialization.leads_escape content (frame.holding draft ignored)
    rw [escape_eq_self ampersand less greater] at read
    exact ⟨ignored, .refl ignored, read⟩
  | .element tag attributes contents, proper, frame, draft, ignored, voids => by
    obtain ⟨named, markup, quotable, inner⟩ := proper
    have start := leads_start named markup quotable (frame.holding draft ignored)
    by_cases isVoid : tag ∈ voidElements
    · rw [Frame.take_start_void _ _ _ isVoid] at start
      obtain ⟨later, awaits, filled⟩ := leads_sources contents inner frame
        (draft.followedBy (.element tag (kept attributes) [])) (tag :: ignored)
        (List.forall_mem_cons.mpr ⟨isVoid, voids⟩)
      obtain ⟨waiting, awaits⟩ := awaits.erase
      have stop := Serialization.leads_elementEnd named
        (frame.holding (Draft.addAll (draft.followedBy (.element tag (kept attributes) [])) contents)
          later)
      rw [Frame.take_stop_void _ _ _ waiting] at stop
      refine ⟨later.erase tag, awaits, ?_⟩
      rw [source, Draft.add, if_pos (by simpa using isVoid)]
      exact (start.trans filled).trans stop
    · rw [Frame.take_start _ _ _ isVoid] at start
      obtain ⟨later, awaits, filled⟩ := leads_sources contents inner
        (frame.inside draft tag (kept attributes)) {} ignored voids
      have taken : tag ∉ later := fun member => isVoid (awaits.void voids tag member)
      have stop := Serialization.leads_elementEnd named
        ((frame.inside draft tag (kept attributes)).holding (Draft.addAll {} contents) later)
      rw [Frame.take_stop _ _ _ _ _ taken] at stop
      refine ⟨later, awaits, ?_⟩
      rw [source, Draft.add, if_neg (by simpa using isVoid)]
      exact (start.trans filled).trans stop
  | .void tag attributes, proper, frame, draft, ignored, voids => by
    obtain ⟨isVoid, quotable⟩ := proper
    obtain ⟨named, markup⟩ := isElementName_of_void isVoid
    have start := leads_start named markup quotable (frame.holding draft ignored)
    rw [Frame.take_start_void _ _ _ isVoid] at start
    exact ⟨tag :: ignored, ⟨[tag], by simpa using isVoid, .refl _⟩, start⟩
  | .comment content, proper, frame, draft, ignored, voids => by
    have read := Serialization.leads_comment proper (frame.holding draft ignored)
    rw [Frame.take_comment] at read
    exact ⟨ignored, .refl ignored, read⟩

theorem leads_sources : (pieces : List Piece) → AreProper pieces → (frame : Frame) →
    (draft : Draft) → (ignored : List Text) → (∀ tag ∈ ignored, tag ∈ voidElements) →
    ∃ later, Awaits ignored later ∧
      Leads (sources pieces) (frame.holding draft ignored)
        (frame.holding (draft.addAll pieces) later)
  | [], _, frame, draft, ignored, _ => ⟨ignored, .refl ignored, Leads.refl _⟩
  | first :: rest, proper, frame, draft, ignored, voids => by
    obtain ⟨properFirst, properRest⟩ := proper
    obtain ⟨later, awaits, leads⟩ := leads_source first properFirst frame draft ignored voids
    obtain ⟨final, awaitsRest, leadsRest⟩ := leads_sources rest properRest frame (draft.add first)
      later (awaits.void voids)
    exact ⟨final, awaits.trans awaitsRest, leads.trans leadsRest⟩

end

/-! ## The nodes of a draft -/

/-- Whether a piece begins an element. -/
def isElement : Piece → Bool
  | .element _ _ _ => true
  | .void _ _ => true
  | _ => false

theorem any_isElement_nodes (draft : Draft) :
    draft.nodes.any Node.isElement = draft.children.any Node.isElement := by
  rw [Draft.nodes]
  split
  · rfl
  · simp [Node.isElement]

mutual

theorem any_isElement_add : (piece : Piece) → (draft : Draft) →
    (draft.add piece).children.any Node.isElement =
      (draft.children.any Node.isElement || piece.isElement)
  | .text _, draft => by simp [Draft.add, isElement]
  | .element tag attributes contents, draft => by
    rw [Draft.add]
    split
    · rw [any_isElement_addAll contents]
      simp [Draft.followedBy, isElement, Node.isElement]
    · simp [Draft.followedBy, isElement, Node.isElement]
  | .void _ _, draft => by simp [Draft.add, Draft.followedBy, isElement, Node.isElement]
  | .comment _, draft => by
    simp [Draft.add, Draft.followedBy, isElement, Node.isElement, any_isElement_nodes]

theorem any_isElement_addAll : (pieces : List Piece) → (draft : Draft) →
    (draft.addAll pieces).children.any Node.isElement =
      (draft.children.any Node.isElement || pieces.any isElement)
  | [], draft => by simp [Draft.addAll]
  | first :: rest, draft => by
    rw [Draft.addAll, any_isElement_addAll rest, any_isElement_add first, List.any_cons,
      Bool.or_assoc]

end

theorem subset_nodes (draft : Draft) : draft.children ⊆ draft.nodes := by
  rw [Draft.nodes]
  split
  · exact List.Subset.refl _
  · exact List.subset_append_left _ _

theorem subset_followedBy (draft : Draft) (node : Node) :
    draft.children ⊆ (draft.followedBy node).children :=
  List.Subset.trans (subset_nodes draft) (List.subset_append_left _ _)

mutual

/-- A draft only grows. -/
theorem subset_add : (piece : Piece) → (draft : Draft) →
    draft.children ⊆ (draft.add piece).children
  | .text _, draft => List.Subset.refl _
  | .element tag attributes contents, draft => by
    rw [Draft.add]
    split
    · exact List.Subset.trans (subset_followedBy draft _) (subset_addAll contents _)
    · exact subset_followedBy draft _
  | .void _ _, draft => by
    rw [Draft.add]
    exact subset_followedBy draft _
  | .comment _, draft => by
    rw [Draft.add]
    exact subset_followedBy draft _

theorem subset_addAll : (pieces : List Piece) → (draft : Draft) →
    draft.children ⊆ (draft.addAll pieces).children
  | [], _ => List.Subset.refl _
  | first :: rest, draft => List.Subset.trans (subset_add first draft) (subset_addAll rest _)

end

theorem comment_mem_addAll {content : Text} {pieces : List Piece}
    (member : .comment content ∈ pieces) (draft : Draft) :
    .comment content ∈ (draft.addAll pieces).children := by
  induction pieces generalizing draft with
  | nil => cases member
  | cons first rest induction =>
    rw [Draft.addAll]
    rcases List.mem_cons.mp member with rfl | later
    · apply subset_addAll rest
      rw [Draft.add]
      exact List.mem_append_right _ List.mem_cons_self
    · exact induction later _

/-- Texts one after the other are one run of characters. -/
theorem addAll_texts {pieces : List Piece} (elements : pieces.any isElement = false)
    (comments : ∀ content, .comment content ∉ pieces) (draft : Draft) :
    draft.addAll pieces = ⟨draft.children, draft.pending ++ sources pieces⟩ := by
  induction pieces generalizing draft with
  | nil => simp [Draft.addAll, sources]
  | cons first rest induction =>
    rw [List.any_cons, Bool.or_eq_false_iff] at elements
    have others : ∀ content, .comment content ∉ rest := fun content member =>
      comments content (List.mem_cons_of_mem first member)
    cases first with
    | text content =>
      rw [Draft.addAll, induction elements.2 others, Draft.add, sources, source, List.append_assoc]
    | comment content => exact absurd List.mem_cons_self (comments content)
    | element tag attributes contents => cases elements.1
    | void tag attributes => cases elements.1

/-! ## What is made of it again -/

/-- The tag that is made again of a void element. -/
def rebuiltVoid (tag : Text) (attributes : Attributes) : Text :=
  '<' :: tag ++ Source.attributes tag (kept attributes) ++ ['/', '>']

mutual

/--
The markup that is made again of what a piece adds to an element.  Where the
element holds text only, a comment that stands bare is written without its
delimiters.
-/
def rebuilt (bare : Bool) : Piece → Text
  | .text content => content
  | .element tag attributes contents =>
    if voidElements.contains tag then
      rebuiltVoid tag attributes ++ rebuiltAll bare contents
    else
      '<' :: tag ++ Source.attributes tag (kept attributes) ++ ['>'] ++ rebuiltAll false contents ++
        Serialization.endTag tag
  | .void tag attributes => rebuiltVoid tag attributes
  | .comment content => if bare then content else Serialization.comment content

/-- The markup that is made again of what pieces add to an element. -/
def rebuiltAll (bare : Bool) : List Piece → Text
  | [] => []
  | first :: rest => rebuilt bare first ++ rebuiltAll bare rest

end

/-- The markup of the children of an element, with bare texts and comments or without. -/
def markup (bare : Bool) (tag : Text) (children : List Node) : Text :=
  if bare then Source.contents children else Source.nodes tag children

theorem contents_append (left right : List Node) :
    Source.contents (left ++ right) = Source.contents left ++ Source.contents right := by
  induction left with
  | nil => rfl
  | cons first rest induction =>
    cases first <;> simp [Source.contents, induction]

theorem nodes_append (tag : Text) (left right : List Node) :
    Source.nodes tag (left ++ right) = Source.nodes tag left ++ Source.nodes tag right := by
  induction left with
  | nil => rfl
  | cons first rest induction =>
    rw [List.cons_append, Source.nodes, induction, Source.nodes, List.append_assoc]

theorem markup_append (bare : Bool) (tag : Text) (left right : List Node) :
    markup bare tag (left ++ right) = markup bare tag left ++ markup bare tag right := by
  cases bare with
  | true => exact contents_append left right
  | false => exact nodes_append tag left right

theorem markup_element (bare : Bool) (outer tag : Text) (attributes : Attributes)
    (children : List Node) :
    markup bare outer [.element tag attributes children] =
      Source.node outer (.element tag attributes children) := by
  cases bare with
  | true =>
    change Source.node [] (.element tag attributes children) ++ [] = _
    rw [List.append_nil, Source.node, Source.node]
  | false =>
    change Source.node outer (.element tag attributes children) ++ [] = _
    rw [List.append_nil]

theorem markup_comment (bare : Bool) (outer content : Text) :
    markup bare outer [.comment content] = rebuilt bare (.comment content) := by
  cases bare with
  | true => exact List.append_nil content
  | false => exact List.append_nil (Serialization.comment content)

theorem holdsRawText_eq_false {tag : Text} (raw : tag ∉ rawElements) :
    Source.holdsRawText tag = false := by
  rw [Source.holdsRawText, Bool.or_eq_false_iff, decide_eq_false_iff_not, decide_eq_false_iff_not]
  constructor
  · rintro rfl
    exact raw (.head _)
  · rintro rfl
    exact raw (.tail _ (.head _))

theorem markup_nodes {outer : Text} (escaped : Source.holdsRawText outer = false) (bare : Bool)
    (draft : Draft) :
    markup bare outer draft.nodes = markup bare outer draft.children ++
      (if bare then draft.pending else Source.escape draft.pending) := by
  obtain ⟨children, pending⟩ := draft
  cases pending with
  | nil => cases bare <;> simp [Draft.nodes, Source.escape]
  | cons c rest =>
    change markup bare outer (children ++ [.text (c :: rest)]) = _
    rw [markup_append]
    congr 1
    cases bare with
    | true => exact List.append_nil (c :: rest)
    | false =>
      change (if Source.holdsRawText outer then c :: rest else Source.escape (c :: rest)) ++ [] = _
      rw [escaped, List.append_nil]

theorem markup_followedBy (bare : Bool) (outer : Text) (draft : Draft) (node : Node) :
    markup bare outer (draft.followedBy node).nodes =
      markup bare outer draft.nodes ++ markup bare outer [node] := by
  rw [← markup_append]
  rfl

mutual

/-- What a piece adds to an element is made into its markup again. -/
theorem markup_add (bare : Bool) : (piece : Piece) → IsProper piece → (outer : Text) →
    Source.holdsRawText outer = false → (draft : Draft) →
    markup bare outer (draft.add piece).nodes = markup bare outer draft.nodes ++ rebuilt bare piece
  | .text content, proper, outer, escaped, draft => by
    obtain ⟨ampersand, less, greater⟩ := proper
    have unchanged := escape_eq_self ampersand less greater
    rw [markup_nodes escaped, markup_nodes escaped, Draft.add, rebuilt]
    cases bare with
    | true => simp
    | false =>
      rw [Source.escape] at unchanged
      simp [Source.escape, unchanged]
  | .element tag attributes contents, proper, outer, escaped, draft => by
    obtain ⟨named, raw, quotable, inner⟩ := proper
    rw [Draft.add, rebuilt]
    split
    · next void =>
      rw [markup_addAll bare contents inner outer escaped, markup_followedBy, markup_element,
        Source.node, void, List.append_assoc]
      rfl
    · next filled =>
      have children : Source.nodes tag (Draft.addAll {} contents).nodes =
          rebuiltAll false contents :=
        markup_addAll false contents inner tag (holdsRawText_eq_false raw) {}
      rw [markup_followedBy, markup_element, Source.node, if_neg, children]
      · simp only [Serialization.endTag, List.append_assoc, List.cons_append]
      · rw [Bool.and_eq_true]
        exact fun wrong => filled wrong.2
  | .void tag attributes, proper, outer, _, draft => by
    have void : voidElements.contains tag = true := by simpa using proper.1
    rw [Draft.add, rebuilt, markup_followedBy, markup_element, Source.node, void]
    rfl
  | .comment content, _, outer, _, draft => by
    rw [Draft.add, markup_followedBy, markup_comment]

theorem markup_addAll (bare : Bool) : (pieces : List Piece) → AreProper pieces →
    (outer : Text) → Source.holdsRawText outer = false → (draft : Draft) →
    markup bare outer (draft.addAll pieces).nodes =
      markup bare outer draft.nodes ++ rebuiltAll bare pieces
  | [], _, _, _, draft => by rw [Draft.addAll, rebuiltAll, List.append_nil]
  | first :: rest, proper, outer, escaped, draft => by
    rw [Draft.addAll, rebuiltAll, markup_addAll bare rest proper.2 outer escaped,
      markup_add bare first proper.1 outer escaped, List.append_assoc]

end

end Piece

end HtmlJsx
