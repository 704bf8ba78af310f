import HtmlJsx.Proofs.Canonical
import HtmlJsx.Proofs.Outcome
import HtmlJsx.Proofs.RawEnd

/-!
# Contents that are kept as they are written

An element that holds text only keeps its contents as text.  A raw element is
read in a mode of its own and keeps what stands before its first end tag.  The
contents of the others are read as markup and written again, so they are kept
if they are written in the form in which markup is written again.
-/

namespace HtmlJsx

namespace Builder

/-! ## Finished nodes stay -/

variable (builder : Builder)

theorem roots_add (node : Node) : builder.roots <+: (builder.add node).roots := by
  rw [add]
  split
  · exact List.prefix_append _ _
  · exact List.prefix_rfl

theorem roots_flush : builder.roots <+: builder.flush.roots := by
  rw [flush]
  split
  · exact List.prefix_rfl
  · exact roots_add builder _

theorem roots_closeInnermost : builder.roots <+: builder.closeInnermost.roots := by
  rw [closeInnermost]
  split
  · exact List.prefix_rfl
  · next element outer _ => exact roots_add { builder with opened := outer } element.close

theorem roots_closeMany (count : Nat) : builder.roots <+: (closeMany count builder).roots := by
  induction count generalizing builder with
  | zero => exact List.prefix_rfl
  | succ count induction =>
    exact (roots_closeInnermost builder).trans (induction builder.closeInnermost)

theorem roots_close (tag : Text) : builder.roots <+: (builder.close tag).roots := by
  rw [close]
  split
  · exact roots_flush builder
  · exact (roots_flush builder).trans (roots_closeMany _ _)

theorem roots_take (token : Token) : builder.roots <+: (builder.take token).roots := by
  have opened (tag : Text) (attributes : Attributes) :
      builder.roots <+: (builder.openElement tag attributes).roots :=
    roots_flush builder
  have added (node : Node) : builder.roots <+: (builder.flush.add node).roots :=
    (roots_flush builder).trans (roots_add builder.flush node)
  cases token with
  | text characters => exact List.prefix_rfl
  | start tag attributes =>
    rw [take]
    dsimp only
    split
    · exact (opened tag attributes).trans (roots_closeInnermost _)
    · exact opened tag attributes
  | selfClosed tag attributes => exact (opened tag attributes).trans (roots_closeInnermost _)
  | stop tag =>
    rw [take]
    split
    · exact List.prefix_rfl
    · exact roots_close builder tag
  | comment content => exact added _
  | doctype content => exact added _
  | instruction content => exact added _
  | cdata content => exact added _
  | declaration content => exact added _

theorem roots_foldl_take (tokens : List Token) :
    builder.roots <+: (tokens.foldl take builder).roots := by
  induction tokens generalizing builder with
  | nil => exact List.prefix_rfl
  | cons token rest induction => exact (roots_take builder token).trans (induction _)

theorem roots_finish : builder.roots <+: builder.finish :=
  (roots_flush builder).trans (roots_closeMany _ _)

end Builder

namespace Lexer

/-- However a text goes on, its tokens do what they do to the builder that it has led to. -/
theorem exists_later_tokens {text rest : Text} {builder : Builder}
    (fed : feed {} text = feed builder rest) {found : List Token} (lexed : tokens text = .ok found) :
    ∃ later : List Token, found.foldl Builder.take {} = later.foldl Builder.take builder := by
  obtain ⟨first, walked, lexed⟩ := Outcome.bind_eq_ok_iff.mp lexed
  obtain ⟨second, -, lexed⟩ := Outcome.bind_eq_ok_iff.mp lexed
  obtain rfl := Except.ok.inj lexed
  rw [feed, walked, feed] at fed
  cases walkedRest : walk false none rest with
  | error fault =>
    rw [walkedRest] at fed
    cases fed
  | ok reading =>
    rw [walkedRest] at fed
    have same := (Prod.mk.inj (Except.ok.inj fed)).1
    refine ⟨reading.tokens ++ second.tokens ++
      (if second.mode.isNone then run second.rest else []), ?_⟩
    rw [List.foldl_append, List.foldl_append, List.foldl_append, List.foldl_append, same]

end Lexer

namespace Piece

open Lexer

/-! ## Texts in place of contents -/

/-- The node of a text, if there is anything in it. -/
def textNodes (text : Text) : List Node :=
  if text.isEmpty then [] else [.text text]

theorem textNodes_inj {left right : Text} (same : textNodes left = textNodes right) :
    left = right := by
  cases left with
  | nil =>
    cases right with
    | nil => rfl
    | cons c rest => cases same
  | cons c rest =>
    cases right with
    | nil => cases same
    | cons d more =>
      injection same with head
      injection head

theorem comment_not_mem_textNodes (content text : Text) : .comment content ∉ textNodes text := by
  cases text with
  | nil => exact List.not_mem_nil
  | cons c rest =>
    intro member
    cases List.mem_singleton.mp member

/-- What an element that holds text only is to keep of its contents. -/
def keptText (tag contents : Text) : Text :=
  if Fragment.leadingNewlineElements.contains tag then dropBreak contents else contents

theorem dropNewline_textNodes (text : Text) :
    Fragment.dropNewline (textNodes text) = textNodes (dropBreak text) := by
  cases text with
  | nil => rfl
  | cons c rest =>
    by_cases isBreak : c = '\n'
    · subst isBreak
      cases rest <;> rfl
    · rw [dropBreak_of_ne isBreak]
      change Fragment.dropNewline [.text (c :: rest)] = [.text (c :: rest)]
      rw [Fragment.dropNewline.eq_def]
      split
      · next same =>
        cases same
        exact absurd rfl isBreak
      · next same =>
        cases same
        exact absurd rfl isBreak
      · rfl

theorem settled_textNodes (tag text : Text) :
    (if Fragment.leadingNewlineElements.contains tag then Fragment.dropNewline (textNodes text)
      else textNodes text) = textNodes (keptText tag text) := by
  rw [keptText]
  split
  · exact dropNewline_textNodes text
  · rfl

theorem settleAll_textNodes (text : Text) :
    Fragment.settleAll true (textNodes text) = textNodes text := by
  cases text <;> rfl

theorem any_isElement_textNodes (text : Text) : (textNodes text).any Node.isElement = false := by
  cases text <;> rfl

theorem settle_textNodes (tag : Text) (attributes : Attributes) (text : Text) :
    Fragment.settle true (.element tag attributes (textNodes text)) =
      .element tag attributes (textNodes (keptText tag text)) := by
  rw [Fragment.settle, any_isElement_textNodes, Bool.and_false, settleAll_textNodes]
  exact congrArg (Node.element tag attributes) (settled_textNodes tag text)

theorem settle_of_isElement {tag : Text} (listed : tag ∈ Fragment.textOnlyElements)
    (attributes : Attributes) {children : List Node}
    (elements : children.any Node.isElement = true) (filled : Source.contents children ≠ []) :
    Fragment.settle true (.element tag attributes children) =
      .element tag attributes (textNodes (keptText tag (Source.contents children))) := by
  have single : [Node.text (Source.contents children)] = textNodes (Source.contents children) := by
    rw [textNodes, if_neg (by simpa using filled)]
  rw [Fragment.settle, elements, List.contains_iff_mem.mpr listed, single]
  exact congrArg (Node.element tag attributes) (settled_textNodes tag _)

theorem comment_mem_settleAll {content : Text} {nodes : List Node}
    (member : .comment content ∈ nodes) : .comment content ∈ Fragment.settleAll true nodes := by
  induction nodes with
  | nil => cases member
  | cons first rest induction =>
    rw [Fragment.settleAll]
    rcases List.mem_cons.mp member with rfl | later
    · exact List.mem_cons_self
    · exact List.mem_cons_of_mem _ (induction later)

theorem comment_mem_dropNewline {content : Text} {nodes : List Node}
    (member : .comment content ∈ nodes) : .comment content ∈ Fragment.dropNewline nodes := by
  rw [Fragment.dropNewline.eq_def]
  split
  · rcases List.mem_cons.mp member with same | later
    · cases same
    · exact later
  · rcases List.mem_cons.mp member with same | later
    · cases same
    · exact List.mem_cons_of_mem _ later
  · exact member

theorem comment_mem_settle {tag : Text} {attributes : Attributes} {children settled : List Node}
    (elements : children.any Node.isElement = false) {content : Text}
    (member : .comment content ∈ children)
    (same : Fragment.settle true (.element tag attributes children) =
      .element tag attributes settled) : .comment content ∈ settled := by
  rw [Fragment.settle, elements, Bool.and_false] at same
  injection same with _ _ same
  have kept := comment_mem_settleAll member
  rw [← same]
  split
  · exact comment_mem_dropNewline kept
  · exact kept

/-! ## Elements that are read as markup -/

theorem areFaithful_of_texts {pieces : List Piece} (elements : pieces.any isElement = false) :
    AreFaithful pieces := by
  induction pieces with
  | nil => trivial
  | cons first rest induction =>
    rw [List.any_cons, Bool.or_eq_false_iff] at elements
    refine ⟨?_, induction elements.2⟩
    cases first with
    | text content => trivial
    | comment content => trivial
    | element tag attributes contents => cases elements.1
    | void tag attributes => cases elements.1

theorem rebuiltAll_ne_nil {pieces : List Piece} (elements : pieces.any isElement = true)
    (bare : Bool) : rebuiltAll bare pieces ≠ [] := by
  induction pieces with
  | nil => cases elements
  | cons first rest induction =>
    rw [rebuiltAll]
    rw [List.any_cons, Bool.or_eq_true] at elements
    rcases elements with here | later
    · cases first with
      | text content => cases here
      | comment content => cases here
      | element tag attributes contents =>
        rw [rebuilt]
        split <;> exact List.cons_ne_nil _ _
      | void tag attributes => exact List.cons_ne_nil _ _
    · exact List.append_ne_nil_of_right_ne_nil _ (induction later)

/-- What settling makes of the nodes of pieces, against what the pieces are. -/
theorem settle_eq_iff {tag : Text} (listed : tag ∈ Fragment.textOnlyElements)
    (attributes : Attributes) {pieces : List Piece} (proper : AreProper pieces) :
    Fragment.settle true (.element tag attributes (Draft.addAll {} pieces).nodes) =
        .element tag attributes (textNodes (keptText tag (sources pieces))) ↔
      AreFaithful pieces ∧ ∀ content, .comment content ∉ pieces := by
  have shape : (Draft.addAll {} pieces).nodes.any Node.isElement = pieces.any isElement := by
    rw [any_isElement_nodes, any_isElement_addAll]
    rfl
  cases elements : pieces.any isElement with
  | true =>
    have again : Source.contents (Draft.addAll {} pieces).nodes = rebuiltAll true pieces :=
      markup_addAll true pieces proper [] (by decide) {}
    have filled : Source.contents (Draft.addAll {} pieces).nodes ≠ [] := by
      rw [again]
      exact rebuiltAll_ne_nil elements true
    rw [settle_of_isElement listed attributes (shape.trans elements) filled, again,
      ← rebuiltAll_eq_sources_iff proper (Fragment.leadingNewlineElements.contains tag)]
    constructor
    · intro same
      injection same with _ _ same
      exact textNodes_inj same
    · intro same
      exact congrArg (fun text => Node.element tag attributes (textNodes text)) same
  | false =>
    by_cases comments : ∀ content, .comment content ∉ pieces
    · have texts : (Draft.addAll {} pieces).nodes = textNodes (sources pieces) := by
        rw [addAll_texts elements comments]
        rfl
      rw [texts]
      exact ⟨fun _ => ⟨areFaithful_of_texts elements, comments⟩,
        fun _ => settle_textNodes tag attributes (sources pieces)⟩
    · refine ⟨fun same => ?_, fun both => absurd both.2 comments⟩
      exfalso
      apply comments
      intro content member
      have inNodes := subset_nodes _ (comment_mem_addAll member {})
      exact comment_not_mem_textNodes content _
        (comment_mem_settle (shape.trans elements) inNodes same)

/-- An element with its contents, as it is written. -/
def holder (tag : Text) (attributes : Attributes) (contents : Text) : Text :=
  startTag tag attributes ++ (contents ++ Serialization.endTag tag)

theorem read_eq {text : Text} {found : List Token} (lexed : tokens text = .ok found) :
    Fragment.read .builtIn text =
      .ok (.element "div".toList [] (Fragment.settleAll true (Node.ofTokens found))) := by
  rw [Fragment.read, lexed]
  rfl

section Holder

variable {tag : Text} {attributes : Attributes} (quotable : ∀ given ∈ attributes, IsQuotable given)

include quotable

theorem read_markup (named : Serialization.IsElementName tag) (markup : tag ∉ rawElements)
    (filled : tag ∉ voidElements) {pieces : List Piece} (proper : AreProper pieces) :
    Fragment.read .builtIn (holder tag attributes (sources pieces)) =
      .ok (.element "div".toList []
        [Fragment.settle true (.element tag (kept attributes) (Draft.addAll {} pieces).nodes)]) := by
  have start := leads_start named markup quotable {}
  rw [Frame.take_start_first filled] at start
  obtain ⟨later, awaits, inside⟩ := leads_sources pieces proper
    { tag := tag, attributes := kept attributes } {} [] (by simp)
  have taken : tag ∉ later := fun member => filled (awaits.void (by simp) tag member)
  have stop := Serialization.leads_elementEnd named
    (Frame.holding { tag := tag, attributes := kept attributes } (Draft.addAll {} pieces) later)
  rw [Frame.take_stop_first _ _ _ taken] at stop
  obtain ⟨found, lexed, built⟩ := tokens_of_leads (start.trans (inside.trans stop))
  rw [holder, read_eq lexed, Node.ofTokens, built]
  rfl

/-! ## Elements that are read in a mode of their own -/

theorem feed_startTag_raw (named : Serialization.IsElementName tag) (raw : tag ∈ rawElements)
    (builder : Builder) (rest : Text) :
    feed builder (startTag tag attributes ++ rest) =
      feedRaw tag (builder.take (.start tag (lowered attributes))) rest := by
  have stepped := Serialization.step_startTag named
    (fun given member => ⟨(quotable given member).isKey, (quotable given member).unquoted⟩)
    (resolveAttributes_quotable quotable) rest
  rw [List.contains_iff_mem.mpr raw] at stepped
  have split : leading? none (startTag tag attributes ++ rest) =
      some ([], startTag tag attributes ++ rest) := by
    simp [leading?, startTag, isMark]
  exact walk_step split stepped builder

/-- A raw element ends at the first end tag with its name. -/
theorem feed_holder (named : Serialization.IsElementName tag) (raw : tag ∈ rawElements)
    (rawName : IsRawName tag) (filled : tag ∉ voidElements) {contents stop : Text}
    (unended : Unended tag contents) (ends : IsEndTag tag stop) (rest : Text) :
    feed {} (startTag tag attributes ++ (contents ++ (stop ++ rest))) =
      feed { roots := [.element tag (kept attributes) (textNodes contents)] } rest := by
  rw [feed_startTag_raw quotable named raw, Frame.take_start_first filled,
    feedRaw_unended rawName unended ends, Frame.take_text, Frame.take_stop_first _ _ _ (by simp)]
  rfl

/-- The element is finished at its first end tag, so it is the first of all nodes. -/
theorem exists_ofTokens_holder (named : Serialization.IsElementName tag) (raw : tag ∈ rawElements)
    (rawName : IsRawName tag) (filled : tag ∉ voidElements) {contents stop rest : Text}
    (unended : Unended tag contents) (ends : IsEndTag tag stop) {found : List Token}
    (lexed : tokens (startTag tag attributes ++ (contents ++ (stop ++ rest))) = .ok found) :
    ∃ more, Node.ofTokens found = .element tag (kept attributes) (textNodes contents) :: more := by
  obtain ⟨later, built⟩ :=
    exists_later_tokens (feed_holder quotable named raw rawName filled unended ends rest) lexed
  obtain ⟨more, finished⟩ := (Builder.roots_foldl_take _ later).trans (Builder.roots_finish _)
  exact ⟨more, by rw [Node.ofTokens, built, ← finished, List.singleton_append]⟩

end Holder

theorem isRawName_of_mem {tag : Text} (raw : tag ∈ rawElements) : IsRawName tag := by
  have each : rawElements.all (fun tag => !tag.isEmpty && tag.all Char.isLower) = true := by
    decide
  have holds := List.all_eq_true.mp each tag raw
  rw [Bool.and_eq_true, Bool.not_eq_true', List.all_eq_true] at holds
  refine ⟨?_, holds.2⟩
  rintro rfl
  cases holds.1

theorem isEndTag_endTag {tag : Text} (named : Serialization.IsElementName tag)
    (rawName : IsRawName tag) : IsEndTag tag (Serialization.endTag tag) := by
  have small : ∀ c ∈ tag, c.toNat < 128 := fun c member =>
    Serialization.toNat_of_isAlpha (Serialization.isAlpha_of_isLower (rawName.letters c member))
  refine ⟨[], tag, [], rfl, rfl, ?_, rfl⟩
  rw [← Text.lower_of_small small, named.lowered]

theorem keptText_raw {tag : Text} (raw : tag ∈ rawElements) (contents : Text) :
    keptText tag contents = contents := by
  have each : rawElements.all (fun tag => !Fragment.leadingNewlineElements.contains tag) = true := by
    decide
  have other := List.all_eq_true.mp each tag raw
  rw [Bool.not_eq_true'] at other
  rw [keptText, other]
  rfl

/-- A raw element keeps its contents if no end tag with its name stands in them. -/
theorem read_raw_iff {tag : Text} (named : Serialization.IsElementName tag)
    (raw : tag ∈ rawElements) (filled : tag ∉ voidElements) {attributes : Attributes}
    (quotable : ∀ given ∈ attributes, IsQuotable given) (contents : Text) :
    Fragment.read .builtIn (holder tag attributes contents) =
        .ok (.element "div".toList [] [.element tag (kept attributes) (textNodes contents)]) ↔
      Unended tag contents := by
  have rawName := isRawName_of_mem raw
  have settled (text : Text) :
      Fragment.settle true (.element tag (kept attributes) (textNodes text)) =
        .element tag (kept attributes) (textNodes text) := by
    rw [settle_textNodes, keptText_raw raw]
  constructor
  · intro kept
    refine Classical.byContradiction fun ended => ?_
    obtain ⟨before, stop, after, unended, ends, rfl⟩ := exists_first_endTag rawName ended
    have shape : holder tag attributes (before ++ (stop ++ after)) =
        startTag tag attributes ++ (before ++ (stop ++ (after ++ Serialization.endTag tag))) := by
      simp only [holder, List.append_assoc]
    rw [shape] at kept
    cases lexed : tokens (startTag tag attributes ++
        (before ++ (stop ++ (after ++ Serialization.endTag tag)))) with
    | error fault =>
      rw [Fragment.read, lexed] at kept
      cases kept
    | ok found =>
      obtain ⟨more, first⟩ :=
        exists_ofTokens_holder quotable named raw rawName filled unended ends lexed
      rw [read_eq lexed, first, Fragment.settleAll, settled] at kept
      injection kept with kept
      injection kept with _ _ kept
      injection kept with kept
      injection kept with _ _ kept
      have longer := congrArg List.length (textNodes_inj kept)
      obtain ⟨inside, rfl, -⟩ := ends.eq_cons rawName
      simp at longer
  · intro unended
    have fed := feed_holder quotable named raw rawName filled unended
      (isEndTag_endTag named rawName) []
    rw [List.append_nil, feed_nil] at fed
    obtain ⟨found, lexed, built⟩ := tokens_of_feed fed
    rw [holder, read_eq lexed, Node.ofTokens, built]
    change Except.ok (Node.element _ _ [Fragment.settle true _]) = _
    rw [settled]

/-! ## Elements that hold text only -/

theorem named_of_textOnly {tag : Text} (listed : tag ∈ Fragment.textOnlyElements) :
    Serialization.IsElementName tag ∧ tag ∉ voidElements := by
  have each : Fragment.textOnlyElements.all
      (fun tag => Serialization.isTagName tag && !voidElements.contains tag) = true := by
    decide +kernel
  have holds := List.all_eq_true.mp each tag listed
  rw [Bool.and_eq_true, Bool.not_eq_true', List.contains_eq_mem, decide_eq_false_iff_not] at holds
  exact ⟨.of_isTagName holds.1, holds.2⟩

/-- When an element that holds text only keeps the source of its contents. -/
def KeepsSource (tag : Text) (pieces : List Piece) : Prop :=
  if tag ∈ rawElements then Unended tag (sources pieces)
  else AreFaithful pieces ∧ ∀ content, .comment content ∉ pieces

/--
An element that holds text only has the source of its contents as its only
child exactly if no end tag of its own stands in them, where it is a raw
element, or else if they are written in the form in which markup is written
again and no comment stands directly among them.
-/
theorem readNamed_keeps_source_iff {tag : Text} (listed : tag ∈ Fragment.textOnlyElements)
    {attributes : Attributes} (quotable : ∀ given ∈ attributes, IsQuotable given)
    {pieces : List Piece} (proper : AreProper pieces) :
    Fragment.readNamed "html.parser".toList (holder tag attributes (sources pieces)) =
        .ok (.element "div".toList []
          [.element tag (kept attributes) (textNodes (keptText tag (sources pieces)))]) ↔
      KeepsSource tag pieces := by
  obtain ⟨named, filled⟩ := named_of_textOnly listed
  change Fragment.read .builtIn (holder tag attributes (sources pieces)) = _ ↔ _
  rw [KeepsSource]
  split
  · next raw =>
    rw [keptText_raw raw]
    exact read_raw_iff named raw filled quotable (sources pieces)
  · next markup =>
    rw [read_markup quotable named markup filled proper,
      ← settle_eq_iff listed (kept attributes) proper]
    constructor
    · intro same
      injection same with same
      injection same with _ _ same
      exact (List.cons.inj same).1
    · intro same
      rw [same]

/-- A line break, an element with sorted attributes that holds a comment and an element, and a text. -/
def nestedPieces : List Piece :=
  [.text "\n".toList,
    .element "b".toList [("class".toList, "x y".toList), ("id".toList, [])]
      [.text "1".toList, .comment "c".toList, .element "i".toList [] []],
    .text "2".toList]

theorem areProper_nestedPieces : AreProper nestedPieces := by
  have proper : Serialization.IsCommentText "c".toList := by
    intro blanks _ within
    have bracket : '>' ∈ "c".toList := within.subset (by simp)
    revert bracket
    decide
  have quotable : ∀ given ∈ [("class".toList, "x y".toList), ("id".toList, [])],
      IsQuotable given := by
    rw [List.forall_mem_cons, List.forall_mem_cons]
    exact ⟨.of_isAttributeName (by decide) (by decide) (by decide),
      .of_isAttributeName (by decide) (by decide) (by decide), by simp⟩
  refine ⟨⟨by decide, by decide, by decide⟩, ⟨.of_isTagName (by decide), by decide, quotable, ?_⟩,
    ⟨by decide, by decide, by decide⟩, trivial⟩
  exact ⟨⟨by decide, by decide, by decide⟩, proper, ⟨.of_isTagName (by decide), by decide, by simp, trivial⟩, trivial⟩

theorem readNamed_keeps_source_nested :
    holder "textarea".toList [] (sources nestedPieces) =
        "<textarea>\n<b class=\"x y\" id=\"\">1<!--c--><i></i></b>2</textarea>".toList ∧
      Fragment.readNamed "html.parser".toList
          (holder "textarea".toList [] (sources nestedPieces)) =
        .ok (.element "div".toList [] [.element "textarea".toList []
          [.text "<b class=\"x y\" id=\"\">1<!--c--><i></i></b>2".toList]]) := by
  have faithful : AreFaithful nestedPieces := by
    refine ⟨trivial, ⟨by decide, ⟨?_, ?_, ?_⟩, trivial, trivial, ⟨by decide, ⟨?_, ?_, ?_⟩, trivial⟩,
      trivial⟩, trivial, trivial⟩
    · decide +kernel
    · decide +kernel
    · exact .cons (by decide) (.cons (by simp) .nil)
    · simp
    · simp
    · exact .nil
  have comments (content : Text) : .comment content ∉ nestedPieces := by
    simp [nestedPieces]
  constructor
  · decide +kernel
  · exact (readNamed_keeps_source_iff (by decide) (by simp) areProper_nestedPieces).mpr
      ⟨faithful, comments⟩

/-- The tag of a void element is closed in the text that is kept. -/
theorem voidTag_closed_in_text :
    AreProper [.void "br".toList []] ∧
      holder "textarea".toList [] (sources [.void "br".toList []]) =
        "<textarea><br></textarea>".toList ∧
      Fragment.readNamed "html.parser".toList
          (holder "textarea".toList [] (sources [.void "br".toList []])) =
        .ok (.element "div".toList [] [.element "textarea".toList [] [.text "<br/>".toList]]) := by
  have proper : AreProper [.void "br".toList []] := ⟨⟨by decide, by simp⟩, trivial⟩
  refine ⟨proper, by decide, ?_⟩
  change Fragment.read .builtIn _ = _
  rw [read_markup (by simp) (.of_isTagName (by decide)) (by decide) (by decide) proper]
  rfl

end Piece

end HtmlJsx
