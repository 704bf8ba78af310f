import HtmlJsx.Dom.Fragment
import HtmlJsx.Proofs.Modes

/-!
# The contents of raw elements

The lexer reads the content of a raw element, `script` or `style`, in a mode of
its own.  The builder has no mode: it opens and closes elements as the tokens
come.  Since the tokens come in the order the modes allow, a builder has a raw
element open only as the innermost one, while the lexer reads its content, so a
raw element gets no children but text.

Settling a fragment keeps this, and it takes the elements out of every element
that may hold text only.
-/

namespace HtmlJsx

/-! ## Conditions on all elements of a tree -/

namespace Node

mutual

/-- Every element of a tree satisfies a condition on its tag and its children. -/
def EveryElement (holds : Text → List Node → Prop) : Node → Prop
  | .element tag _ children => holds tag children ∧ EveryElementBelow holds children
  | _ => True

/-- Every element among some nodes and below them satisfies a condition. -/
def EveryElementBelow (holds : Text → List Node → Prop) : List Node → Prop
  | [] => True
  | node :: rest => EveryElement holds node ∧ EveryElementBelow holds rest

end

variable {holds : Text → List Node → Prop}

theorem everyElementBelow_iff {nodes : List Node} :
    EveryElementBelow holds nodes ↔ ∀ node ∈ nodes, EveryElement holds node := by
  induction nodes with
  | nil => simp [EveryElementBelow]
  | cons node rest induction => simp [EveryElementBelow, induction]

theorem everyElement_of_isText {node : Node} (text : node.isText = true) :
    EveryElement holds node := by
  obtain ⟨content, rfl⟩ := eq_text_of_isText text
  trivial

mutual

/-- A condition on every element of a tree holds of the elements in its outline. -/
theorem EveryElement.of_mem_outline {parent above : Option Text} {tag : Text}
    {attributes : Attributes} {children : List Node} :
    {node : Node} → EveryElement holds node →
      (above, .element tag attributes children) ∈ node.outline parent → holds tag children
  | .element _ _ _, every, member => by
    rw [outline] at member
    rcases List.mem_cons.mp member with same | below
    · cases same
      exact every.1
    · exact EveryElementBelow.of_mem_outlineAll every.2 below
  | .text _, _, member => by cases List.mem_singleton.mp member
  | .comment _, _, member => by cases List.mem_singleton.mp member
  | .special _ _, _, member => by cases List.mem_singleton.mp member

theorem EveryElementBelow.of_mem_outlineAll {parent above : Option Text} {tag : Text}
    {attributes : Attributes} {children : List Node} :
    {nodes : List Node} → EveryElementBelow holds nodes →
      (above, .element tag attributes children) ∈ outlineAll parent nodes → holds tag children
  | [], _, member => by cases member
  | _ :: _, every, member => by
    rw [outlineAll] at member
    rcases List.mem_append.mp member with first | others
    · exact EveryElement.of_mem_outline every.1 first
    · exact EveryElementBelow.of_mem_outlineAll every.2 others

end

end Node

/-- The children of an element are text if the element is raw. -/
def HoldsRawText (tag : Text) (children : List Node) : Prop :=
  tag ∈ Lexer.rawElements → ∀ child ∈ children, child.isText = true

/-! ## Building from tokens -/

namespace Builder

/-- The tags of the open elements, the innermost first. -/
def tags (builder : Builder) : List Text :=
  builder.opened.map OpenElement.tag

@[simp]
theorem tags_add (builder : Builder) (node : Node) : (builder.add node).tags = builder.tags := by
  rw [add]
  split
  · rfl
  · next shape => simp [tags, shape]

@[simp]
theorem tags_flush (builder : Builder) : builder.flush.tags = builder.tags := by
  rw [flush]
  split
  · rfl
  · exact tags_add builder _

@[simp]
theorem tags_closeInnermost (builder : Builder) :
    builder.closeInnermost.tags = builder.tags.tail := by
  rw [closeInnermost]
  split
  · next empty => simp [tags, empty]
  · next shape =>
    rw [tags_add]
    simp [tags, shape]

@[simp]
theorem ignored_closeInnermost (builder : Builder) :
    builder.closeInnermost.ignored = builder.ignored := by
  rw [closeInnermost]
  split
  · rfl
  · exact ignored_add _ _

/--
Whatever is open can be closed: no raw element has got a child that is no
text, and only the innermost open element may be raw.
-/
structure Closable (builder : Builder) : Prop where
  roots : ∀ node ∈ builder.roots, node.EveryElement HoldsRawText
  opened : ∀ element ∈ builder.opened, element.close.EveryElement HoldsRawText
  outer : ∀ tag ∈ builder.tags.tail, tag ∉ Lexer.rawElements

namespace Closable

variable {builder : Builder}

/-- A raw element receives text, any other element every node. -/
theorem add (closable : builder.Closable) {node : Node} (every : node.EveryElement HoldsRawText)
    (fits : node.isText = true ∨ ∀ tag ∈ builder.tags.head?, tag ∉ Lexer.rawElements) :
    (builder.add node).Closable where
  roots := by
    rw [Builder.add]
    split
    · intro root member
      rcases List.mem_append.mp member with earlier | new
      · exact closable.roots root earlier
      · rw [List.mem_singleton.mp new]
        exact every
    · exact closable.roots
  opened := by
    rw [Builder.add]
    split
    · exact closable.opened
    · next innermost others shape =>
      have within : ∀ element ∈ innermost :: others,
          element.close.EveryElement HoldsRawText := by
        rw [← shape]
        exact closable.opened
      intro element member
      rcases List.mem_cons.mp member with rfl | outside
      · obtain ⟨holds, below⟩ := within innermost List.mem_cons_self
        refine ⟨?_, Node.everyElementBelow_iff.mpr ?_⟩
        · intro raw child present
          rcases List.mem_append.mp present with earlier | new
          · exact holds raw child earlier
          · have head : builder.tags.head? = some innermost.tag := by simp [tags, shape]
            rw [List.mem_singleton.mp new]
            exact fits.resolve_right fun plain => plain _ head raw
        · intro child present
          rcases List.mem_append.mp present with earlier | new
          · exact Node.everyElementBelow_iff.mp below child earlier
          · rw [List.mem_singleton.mp new]
            exact every
      · exact within element (List.mem_cons_of_mem _ outside)
  outer := by
    rw [tags_add]
    exact closable.outer

theorem flush (closable : builder.Closable) : builder.flush.Closable := by
  rw [Builder.flush]
  split
  · exact closable
  · have every : (Node.text builder.pending).EveryElement HoldsRawText := trivial
    have added := closable.add every (.inl rfl)
    exact ⟨added.roots, added.opened, added.outer⟩

/-- Whatever is closed, the element outside it is not raw. -/
theorem closeInnermost (closable : builder.Closable) : builder.closeInnermost.Closable := by
  rw [Builder.closeInnermost]
  split
  · exact closable
  · next innermost others shape =>
    have tail : builder.tags.tail = others.map OpenElement.tag := by simp [tags, shape]
    have outside : Closable { builder with opened := others } := by
      refine ⟨closable.roots, ?_, ?_⟩
      · intro element member
        apply closable.opened
        rw [shape]
        exact List.mem_cons_of_mem _ member
      · intro tag member
        apply closable.outer
        rw [tail]
        exact List.mem_of_mem_tail member
    have every : innermost.close.EveryElement HoldsRawText := by
      apply closable.opened
      rw [shape]
      exact List.mem_cons_self
    apply outside.add every
    right
    intro tag head
    apply closable.outer
    rw [tail]
    exact List.mem_of_mem_head? head

theorem closeMany (closable : builder.Closable) (count : Nat) :
    (Builder.closeMany count builder).Closable := by
  induction count generalizing builder with
  | zero => exact closable
  | succ count induction => exact induction closable.closeInnermost

theorem finish (closable : builder.Closable) :
    ∀ node ∈ builder.finish, node.EveryElement HoldsRawText :=
  (closable.flush.closeMany _).roots

end Closable

/-- The innermost open element is the raw one whose content is read, and else not raw. -/
def Attends (builder : Builder) : Lexer.Mode → Prop
  | none => ∀ tag ∈ builder.tags.head?, tag ∉ Lexer.rawElements
  | some name => name ∈ Lexer.rawElements ∧ builder.tags.head? = some name

/-- A builder that has taken the tokens of a text up to a place where the lexer is in a mode. -/
structure Sound (mode : Lexer.Mode) (builder : Builder) : Prop extends Closable builder where
  ignored : ∀ tag ∈ builder.ignored, tag ∉ Lexer.rawElements
  attends : builder.Attends mode

namespace Sound

variable {mode : Lexer.Mode} {builder : Builder}

theorem flush (sound : Sound mode builder) : Sound mode builder.flush where
  toClosable := sound.toClosable.flush
  ignored := by
    rw [ignored_flush]
    exact sound.ignored
  attends := by
    have attends := sound.attends
    cases mode with
    | none => rwa [Attends, tags_flush]
    | some name => rwa [Attends, tags_flush]

theorem add (sound : Sound none builder) {node : Node}
    (every : node.EveryElement HoldsRawText) : Sound none (builder.add node) where
  toClosable := sound.toClosable.add every (.inr sound.attends)
  ignored := by
    rw [ignored_add]
    exact sound.ignored
  attends := by
    rw [Attends, tags_add]
    exact sound.attends

theorem closeInnermost (sound : Sound mode builder) : Sound none builder.closeInnermost where
  toClosable := sound.toClosable.closeInnermost
  ignored := by
    rw [ignored_closeInnermost]
    exact sound.ignored
  attends := by
    intro tag head
    rw [tags_closeInnermost] at head
    exact sound.outer tag (List.mem_of_mem_head? head)

theorem closeMany (sound : Sound none builder) (count : Nat) :
    Sound none (Builder.closeMany count builder) := by
  induction count generalizing builder with
  | zero => exact sound
  | succ count induction => exact induction sound.closeInnermost

theorem close (sound : Sound none builder) (tag : Text) : Sound none (builder.close tag) := by
  rw [Builder.close]
  split
  · exact sound.flush
  · exact sound.flush.closeMany _

/-- The end tag of the raw element that is read closes it and nothing else. -/
theorem close_raw {name : Text} (sound : Sound (some name) builder) :
    Sound none (builder.close name) := by
  have head : builder.flush.tags.head? = some name := by
    rw [tags_flush]
    exact sound.attends.2
  have depth : depthOf? name builder.flush.opened = some 1 := by
    rw [tags] at head
    cases shape : builder.flush.opened with
    | nil =>
      rw [shape] at head
      cases head
    | cons element outer =>
      rw [shape] at head
      rw [depthOf?, if_pos (Option.some.inj head)]
  rw [Builder.close, depth]
  exact sound.flush.closeInnermost

/-- An element that is opened is attended to in the mode its start tag leads to. -/
theorem openElement (sound : Sound none builder) (tag : Text) (attributes : Attributes) :
    Sound (if Lexer.rawElements.contains tag then some tag else none)
      (builder.openElement tag attributes) := by
  have ready := sound.flush
  have plain : ∀ other ∈ builder.flush.tags, other ∉ Lexer.rawElements := by
    intro other member
    cases shape : builder.flush.tags with
    | nil =>
      rw [shape] at member
      cases member
    | cons innermost outer =>
      rw [shape] at member
      rcases List.mem_cons.mp member with rfl | outside
      · exact ready.attends _ (by rw [shape]; rfl)
      · exact ready.outer other (by rw [shape]; exact outside)
  refine ⟨⟨ready.roots, ?_, plain⟩, ready.ignored, ?_⟩
  · intro element member
    rcases List.mem_cons.mp member with rfl | earlier
    · exact ⟨nofun, trivial⟩
    · exact ready.opened element earlier
  · split
    · next raw => exact ⟨List.contains_iff_mem.mp raw, rfl⟩
    · next other =>
      intro innermost head
      obtain rfl := Option.some.inj head
      rwa [List.contains_iff_mem] at other

theorem not_mem_rawElements_of_void {tag : Text} (void : voidElements.contains tag = true) :
    tag ∉ Lexer.rawElements := by
  have apart : ∀ name ∈ voidElements, name ∉ Lexer.rawElements := by decide
  exact apart tag (List.contains_iff_mem.mp void)

theorem take_text (sound : Sound mode builder) (characters : Text) :
    Sound mode (builder.take (.text characters)) where
  roots := sound.roots
  opened := sound.opened
  outer := sound.outer
  ignored := sound.ignored
  attends := by
    have attends := sound.attends
    cases mode with
    | none => exact attends
    | some name => exact attends

/-- A void element is closed where it starts; it is never raw. -/
theorem take_start (sound : Sound none builder) (tag : Text) (attributes : Attributes) :
    Sound (if Lexer.rawElements.contains tag then some tag else none)
      (builder.take (.start tag attributes)) := by
  have opened := sound.openElement tag attributes
  rw [Builder.take]
  by_cases void : voidElements.contains tag = true
  · have plain := not_mem_rawElements_of_void void
    have closed := opened.closeInnermost
    rw [if_pos void, if_neg (by rwa [List.contains_iff_mem])]
    refine ⟨⟨closed.roots, closed.opened, closed.outer⟩, ?_, closed.attends⟩
    intro ignored member
    rcases List.mem_cons.mp member with rfl | earlier
    · exact plain
    · exact opened.ignored ignored earlier
  · rw [if_neg void]
    exact opened

/-- Outside raw elements every token can be taken. -/
theorem take_plain (sound : Sound none builder) {token : Token} {after : Lexer.Mode}
    (follows : Lexer.modeAfter? none token = some after) : Sound after (builder.take token) := by
  cases token with
  | text characters =>
    cases follows
    exact sound.take_text characters
  | start tag attributes =>
    cases follows
    exact sound.take_start tag attributes
  | selfClosed tag attributes =>
    cases follows
    exact (sound.openElement tag attributes).closeInnermost
  | stop tag =>
    cases follows
    rw [Builder.take]
    split
    · refine ⟨⟨sound.roots, sound.opened, sound.outer⟩, ?_, sound.attends⟩
      intro ignored member
      exact sound.ignored ignored (List.mem_of_mem_erase member)
    · exact sound.close tag
  | comment content | doctype content | instruction content | cdata content
    | declaration content =>
    cases follows
    exact sound.flush.add trivial

/-- In a raw element only text and the end of the element come. -/
theorem take_raw {name : Text} (sound : Sound (some name) builder) {token : Token}
    {after : Lexer.Mode} (follows : Lexer.modeAfter? (some name) token = some after) :
    Sound after (builder.take token) := by
  cases token with
  | text characters =>
    cases follows
    exact sound.take_text characters
  | stop tag =>
    rw [Lexer.modeAfter?] at follows
    split at follows
    · next same =>
      cases follows
      have due : builder.ignored.contains tag = false := by
        rw [← Bool.not_eq_true, List.contains_iff_mem, same]
        exact fun member => sound.ignored name member sound.attends.1
      rw [Builder.take, due, same]
      exact sound.close_raw
    · cases follows
  | _ => cases follows

theorem take (sound : Sound mode builder) {token : Token} {after : Lexer.Mode}
    (follows : Lexer.modeAfter? mode token = some after) : Sound after (builder.take token) := by
  cases mode with
  | none => exact sound.take_plain follows
  | some name => exact sound.take_raw follows

/-- Taking tokens that can come one after the other keeps the builder sound. -/
theorem foldl_take {tokens : List Token} {after : Lexer.Mode} (sound : Sound mode builder)
    (passes : Lexer.Passes mode tokens after) :
    Sound after (tokens.foldl Builder.take builder) := by
  induction tokens generalizing mode builder with
  | nil =>
    cases passes
    exact sound
  | cons token rest induction =>
    rw [Lexer.Passes, List.foldlM_cons] at passes
    obtain ⟨middle, follows, passes⟩ := Option.bind_eq_some_iff.mp passes
    exact induction (sound.take follows) passes

end Sound

theorem sound_initial : Sound none {} where
  roots := nofun
  opened := nofun
  outer := nofun
  ignored := nofun
  attends := nofun

end Builder

/-- In the trees of the tokens of a text, raw elements hold text only. -/
theorem Node.everyElement_ofTokens {text : Text} {tokens : List Token}
    (read : Lexer.tokens text = .ok tokens) :
    ∀ node ∈ Node.ofTokens tokens, node.EveryElement HoldsRawText := by
  obtain ⟨mode, passes⟩ := Lexer.passes_tokens read
  exact (Builder.sound_initial.foldl_take passes).finish

/-! ## Settling -/

namespace Fragment

/-- What an element of a settled tree holds: no element if it may hold text only. -/
structure HoldsSettled (tag : Text) (children : List Node) : Prop where
  raw : HoldsRawText tag children
  flat : tag ∈ textOnlyElements → ∀ child ∈ children, child.isElement = false

theorem isText_settle (dropping : Bool) (node : Node) :
    (settle dropping node).isText = node.isText := by
  cases node <;> rfl

theorem isElement_settle (dropping : Bool) (node : Node) :
    (settle dropping node).isElement = node.isElement := by
  cases node <;> rfl

theorem exists_of_mem_settleAll {dropping : Bool} {child : Node} {nodes : List Node}
    (member : child ∈ settleAll dropping nodes) : ∃ node ∈ nodes, child = settle dropping node := by
  induction nodes with
  | nil => cases member
  | cons node rest induction =>
    rcases List.mem_cons.mp member with rfl | other
    · exact ⟨node, List.mem_cons_self, rfl⟩
    · obtain ⟨unsettled, present, same⟩ := induction other
      exact ⟨unsettled, List.mem_cons_of_mem _ present, same⟩

theorem mem_of_mem_dropNewline {child : Node} {nodes : List Node}
    (member : child ∈ dropNewline nodes) : child.isText = true ∨ child ∈ nodes := by
  unfold dropNewline at member
  split at member
  · exact .inr (List.mem_cons_of_mem _ member)
  · rcases List.mem_cons.mp member with rfl | other
    · exact .inl rfl
    · exact .inr (List.mem_cons_of_mem _ other)
  · exact .inr member

/--
A child of a settled element is text, or it was settled as a child; if the
element may hold text only, no child was an element then.
-/
theorem mem_children_settle {dropping : Bool} {tag : Text} (attributes : Attributes)
    {children : List Node} {child : Node}
    (member : child ∈ (settle dropping (.element tag attributes children)).children) :
    child.isText = true ∨
      child ∈ settleAll dropping children ∧
        (tag ∈ textOnlyElements → ∀ node ∈ children, node.isElement = false) := by
  rw [settle, Node.children] at member
  have kept : child.isText = true ∨
      child ∈ (if (textOnlyElements.contains tag && children.any Node.isElement) = true then
        [.text (Source.contents children)] else settleAll dropping children) := by
    split at member
    · exact mem_of_mem_dropNewline member
    · exact .inr member
  rcases kept with text | kept
  · exact .inl text
  · split at kept
    · rw [List.mem_singleton.mp kept]
      exact .inl rfl
    · next flat =>
      refine .inr ⟨kept, ?_⟩
      intro listed node present
      rw [Bool.and_eq_true, not_and, List.contains_iff_mem, List.any_eq_true] at flat
      rw [← Bool.not_eq_true]
      exact fun isElement => flat listed ⟨node, present, isElement⟩

mutual

theorem everyElement_settle (dropping : Bool) :
    (node : Node) → node.EveryElement HoldsRawText →
      (settle dropping node).EveryElement HoldsSettled
  | .element tag attributes children, every => by
    have settled := everyElementBelow_settleAll dropping children every.2
    refine ⟨⟨?_, ?_⟩, Node.everyElementBelow_iff.mpr ?_⟩
    · intro raw child member
      rcases mem_children_settle attributes member with text | ⟨kept, -⟩
      · exact text
      · obtain ⟨node, present, rfl⟩ := exists_of_mem_settleAll kept
        rw [isText_settle]
        exact every.1 raw node present
    · intro listed child member
      rcases mem_children_settle attributes member with text | ⟨kept, flat⟩
      · obtain ⟨content, rfl⟩ := Node.eq_text_of_isText text
        rfl
      · obtain ⟨node, present, rfl⟩ := exists_of_mem_settleAll kept
        rw [isElement_settle]
        exact flat listed node present
    · intro child member
      rcases mem_children_settle attributes member with text | ⟨kept, -⟩
      · exact Node.everyElement_of_isText text
      · exact Node.everyElementBelow_iff.mp settled child kept
  | .text _, _ => trivial
  | .comment _, _ => trivial
  | .special _ _, _ => trivial

theorem everyElementBelow_settleAll (dropping : Bool) :
    (nodes : List Node) → Node.EveryElementBelow HoldsRawText nodes →
      Node.EveryElementBelow HoldsSettled (settleAll dropping nodes)
  | [], _ => trivial
  | first :: rest, every =>
    ⟨everyElement_settle dropping first every.1, everyElementBelow_settleAll dropping rest every.2⟩

end

/-- In a fragment that is read, raw elements hold text and no text-only element holds an element. -/
theorem everyElement_read {markup : Text} {container : Node}
    (parsed : read .builtIn markup = .ok container) : container.EveryElement HoldsSettled := by
  rw [read] at parsed
  split at parsed
  · cases parsed
  · next tokens found =>
    obtain rfl := Except.ok.inj parsed
    have built := Node.everyElementBelow_iff.mpr (Node.everyElement_ofTokens found)
    refine ⟨⟨?_, ?_⟩, everyElementBelow_settleAll true _ built⟩
    · intro raw
      exact absurd raw (by decide)
    · intro listed
      exact absurd listed (by decide)

end Fragment

end HtmlJsx
