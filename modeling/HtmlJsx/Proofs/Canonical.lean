import HtmlJsx.Proofs.LetterCase
import HtmlJsx.Proofs.Pieces

/-!
# Markup that is made again as it was written

The markup of nodes has one form only: names are lower-case, attributes are
sorted by name with one value for each, brackets in values are escaped, and the
tags of void elements are closed.  Pieces are made again as they were written
exactly if they have this form.
-/

namespace HtmlJsx

namespace Builder

theorem firstOfEach_sublist (attributes : Attributes) :
    (firstOfEach attributes).Sublist attributes := by
  induction attributes with
  | nil => exact .slnil
  | cons given rest induction => exact (List.filter_sublist.trans induction).cons_cons given

theorem nodup_firstOfEach (attributes : Attributes) :
    ((firstOfEach attributes).map Prod.fst).Nodup := by
  induction attributes with
  | nil => exact .nil
  | cons given rest induction =>
    rw [firstOfEach, List.map_cons, List.nodup_cons]
    refine ⟨?_, induction.sublist (List.filter_sublist.map Prod.fst)⟩
    intro member
    obtain ⟨other, inRest, same⟩ := List.mem_map.mp member
    have different := (List.mem_filter.mp inRest).2
    rw [bne_iff_ne] at different
    exact different same

end Builder

namespace Source

/-! ## The order of attributes -/

theorem not_comesBefore_of_comesBefore {left right : Text} (before : comesBefore left right = true) :
    comesBefore right left = false :=
  decide_eq_false (List.lt_asymm (of_decide_eq_true before))

theorem not_comesBefore_trans {first second third : Text}
    (ordered : comesBefore second first = false) (later : comesBefore third second = false) :
    comesBefore third first = false :=
  decide_eq_false <| List.not_lt.mpr <| List.le_trans
    (List.not_lt.mp (of_decide_eq_false ordered)) (List.not_lt.mp (of_decide_eq_false later))

theorem comesBefore_of_ne {left right : Text} (ordered : comesBefore right left = false)
    (different : left ≠ right) : comesBefore left right = true := by
  cases before : comesBefore left right with
  | true => rfl
  | false =>
    have same : left.map Char.toNat = right.map Char.toNat := List.le_antisymm
      (List.not_lt.mp (of_decide_eq_false ordered)) (List.not_lt.mp (of_decide_eq_false before))
    exact absurd ((List.map_inj_right fun _ _ => Char.toNat_inj.mp).mp same) different

theorem perm_insertByName (entry : Text × Text) (attributes : Attributes) :
    (insertByName entry attributes).Perm (entry :: attributes) := by
  induction attributes with
  | nil => exact .refl _
  | cons other rest induction =>
    rw [insertByName]
    split
    · exact (induction.cons other).trans (.swap entry other rest)
    · exact .refl _

theorem perm_sortAttributes (attributes : Attributes) :
    (sortAttributes attributes).Perm attributes := by
  induction attributes with
  | nil => exact .refl _
  | cons entry rest induction =>
    exact (perm_insertByName entry (sortAttributes rest)).trans (induction.cons entry)

/-- Attributes whose names are in order. -/
def AreSorted (attributes : Attributes) : Prop :=
  attributes.Pairwise fun left right => comesBefore right.1 left.1 = false

theorem areSorted_insertByName (entry : Text × Text) {attributes : Attributes}
    (sorted : AreSorted attributes) : AreSorted (insertByName entry attributes) := by
  induction attributes with
  | nil => exact List.pairwise_singleton _ _
  | cons other rest induction =>
    obtain ⟨first, sortedRest⟩ := List.pairwise_cons.mp sorted
    rw [insertByName]
    split
    · next before =>
      refine List.pairwise_cons.mpr ⟨?_, induction sortedRest⟩
      intro given member
      rcases List.mem_cons.mp ((perm_insertByName entry rest).mem_iff.mp member) with rfl | inRest
      · exact not_comesBefore_of_comesBefore before
      · exact first given inRest
    · next after =>
      rw [Bool.not_eq_true] at after
      refine List.pairwise_cons.mpr ⟨?_, sorted⟩
      intro given member
      rcases List.mem_cons.mp member with rfl | inRest
      · exact after
      · exact not_comesBefore_trans after (first given inRest)

theorem areSorted_sortAttributes (attributes : Attributes) :
    AreSorted (sortAttributes attributes) := by
  induction attributes with
  | nil => exact .nil
  | cons entry rest induction => exact areSorted_insertByName entry induction

/-- Attributes whose names are in order and differ. -/
def AreOrdered (attributes : Attributes) : Prop :=
  attributes.Pairwise fun left right => comesBefore left.1 right.1 = true

theorem AreOrdered.sortAttributes {attributes : Attributes} (ordered : AreOrdered attributes) :
    sortAttributes attributes = attributes := by
  induction attributes with
  | nil => rfl
  | cons entry rest induction =>
    obtain ⟨first, orderedRest⟩ := List.pairwise_cons.mp ordered
    change insertByName entry (Source.sortAttributes rest) = _
    rw [induction orderedRest]
    cases rest with
    | nil => rfl
    | cons other more =>
      have after := not_comesBefore_of_comesBefore (first other List.mem_cons_self)
      rw [insertByName, if_neg (by simp [after])]

theorem AreOrdered.nodup {attributes : Attributes} (ordered : AreOrdered attributes) :
    (attributes.map Prod.fst).Nodup := by
  rw [List.Nodup, List.pairwise_map]
  refine ordered.imp fun {left right} before same => ?_
  have after := not_comesBefore_of_comesBefore before
  rw [← same] at before after
  rw [before] at after
  cases after

theorem areOrdered_of_nodup {attributes : Attributes} (sorted : AreSorted attributes)
    (distinct : (attributes.map Prod.fst).Nodup) : AreOrdered attributes := by
  rw [List.Nodup, List.pairwise_map] at distinct
  exact (sorted.and distinct).imp fun both => comesBefore_of_ne both.1 both.2

/-! ## The characters of values -/

theorem mem_escape {c : Char} {text : Text} (member : c ∈ escape text) :
    (c ∈ text ∧ c ≠ '<' ∧ c ≠ '>') ∨ c ∈ "&amp;&lt;&gt;".toList := by
  obtain ⟨special, inText, inEscaped⟩ := List.mem_flatMap.mp member
  rw [escapeChar] at inEscaped
  split at inEscaped
  · exact .inr ((by decide : "&amp;".toList ⊆ "&amp;&lt;&gt;".toList) inEscaped)
  split at inEscaped
  · exact .inr ((by decide : "&lt;".toList ⊆ "&amp;&lt;&gt;".toList) inEscaped)
  split at inEscaped
  · exact .inr ((by decide : "&gt;".toList ⊆ "&amp;&lt;&gt;".toList) inEscaped)
  · next _ less greater =>
    obtain rfl := List.mem_singleton.mp inEscaped
    exact .inl ⟨inText, less, greater⟩

theorem quote_not_mem_escape {text : Text} (absent : '"' ∉ text) : '"' ∉ escape text := by
  intro member
  rcases mem_escape member with ⟨inText, -⟩ | escaped
  · exact absent inText
  · exact absurd escaped (by decide)

theorem less_not_mem_escape (text : Text) : '<' ∉ escape text := by
  intro member
  rcases mem_escape member with ⟨-, apart, -⟩ | escaped
  · exact apart rfl
  · exact absurd escaped (by decide)

theorem greater_not_mem_escape (text : Text) : '>' ∉ escape text := by
  intro member
  rcases mem_escape member with ⟨-, -, apart⟩ | escaped
  · exact apart rfl
  · exact absurd escaped (by decide)

theorem quoteValue_eq {value : Text} (absent : '"' ∉ value) :
    quoteValue value = '"' :: escape value ++ ['"'] := by
  have unquoted : (escape value).contains '"' = false := by
    simpa using quote_not_mem_escape absent
  rw [quoteValue, unquoted]
  rfl

theorem mem_announceFrom {c : Char} {free : Bool} {skip : Nat} {text : Text}
    (member : c ∈ announceFrom free skip text) : c ∈ text ∨ c ∈ charsetMark ++ encoding := by
  fun_induction announceFrom free skip text with
  | case1 => cases member
  | case2 free skip passed rest induction =>
    exact (induction member).imp_left (List.mem_cons_of_mem passed)
  | case3 free first rest announced value induction =>
    rcases List.mem_append.mp member with written | later
    · exact .inr written
    · exact (induction later).imp_left (List.mem_cons_of_mem first)
  | case4 free first rest plain induction =>
    rcases List.mem_cons.mp member with rfl | later
    · exact .inl List.mem_cons_self
    · exact (induction later).imp_left (List.mem_cons_of_mem first)

/-- Announcing an encoding changes values, and these into others without quotes. -/
theorem announceEncoding_eq (attributes : Attributes) :
    ∃ change : Text → Text → Text,
      announceEncoding attributes = attributes.map (fun given => (given.1, change given.1 given.2)) ∧
        ∀ name value, '"' ∉ value → '"' ∉ change name value := by
  have same : attributes = attributes.map fun given => (given.1, given.2) :=
    (List.map_id attributes).symm
  rw [announceEncoding]
  split
  · refine ⟨fun name value => if name = "charset".toList then encoding else value, rfl, ?_⟩
    intro name value absent
    dsimp only
    split
    · decide
    · exact absent
  · split
    · split
      · refine ⟨fun name value =>
          if name = "content".toList then announceFrom true 0 value else value, rfl, ?_⟩
        intro name value absent
        dsimp only
        split
        · intro member
          rcases mem_announceFrom member with inValue | announced
          · exact absent inValue
          · exact absurd announced (by decide)
        · exact absent
      · exact ⟨fun _ value => value, same, fun _ _ absent => absent⟩
    · exact ⟨fun _ value => value, same, fun _ _ absent => absent⟩

end Source

namespace Piece

open Serialization (quotation)

/-! ## Attributes that are made again -/

theorem mem_kept {attributes : Attributes} {entry : Text × Text} (member : entry ∈ kept attributes) :
    ∃ given ∈ attributes, entry = (Text.lower given.1, given.2) := by
  obtain ⟨given, inAttributes, same⟩ := List.mem_map.mp ((Builder.firstOfEach_sublist _).subset member)
  exact ⟨given, inAttributes, same.symm⟩

theorem nodup_kept (attributes : Attributes) : ((kept attributes).map Prod.fst).Nodup :=
  Builder.nodup_firstOfEach _

/-- The attributes that are written again. -/
def shown (tag : Text) (attributes : Attributes) : Attributes :=
  if tag = "meta".toList then Source.announceEncoding (kept attributes) else kept attributes

/-- The names and the escaped values that are written again, in their order. -/
def rewritten (tag : Text) (attributes : Attributes) : Attributes :=
  (Source.sortAttributes (shown tag attributes)).map fun given => (given.1, Source.escape given.2)

section Quotable

variable {attributes : Attributes} (quotable : ∀ given ∈ attributes, IsQuotable given)

include quotable

theorem mem_shown {tag : Text} {entry : Text × Text} (member : entry ∈ shown tag attributes) :
    '"' ∉ entry.2 ∧ ∃ given ∈ attributes, entry.1 = Text.lower given.1 := by
  have ofKept {other : Text × Text} (inKept : other ∈ kept attributes) :
      '"' ∉ other.2 ∧ ∃ given ∈ attributes, other.1 = Text.lower given.1 := by
    obtain ⟨given, inAttributes, rfl⟩ := mem_kept inKept
    exact ⟨(quotable given inAttributes).unquoted, given, inAttributes, rfl⟩
  rw [shown] at member
  split at member
  · obtain ⟨change, announced, keeps⟩ := Source.announceEncoding_eq (kept attributes)
    rw [announced] at member
    obtain ⟨other, inKept, rfl⟩ := List.mem_map.mp member
    obtain ⟨unquoted, named⟩ := ofKept inKept
    exact ⟨keeps other.1 other.2 unquoted, named⟩
  · exact ofKept member

theorem mem_rewritten {tag : Text} {entry : Text × Text}
    (member : entry ∈ rewritten tag attributes) :
    '"' ∉ entry.2 ∧ '<' ∉ entry.2 ∧ ∀ c ∈ delimiters, c ∉ entry.1 := by
  obtain ⟨given, inSorted, rfl⟩ := List.mem_map.mp member
  obtain ⟨unquoted, written, inAttributes, lowered⟩ :=
    mem_shown quotable ((Source.perm_sortAttributes _).mem_iff.mp inSorted)
  refine ⟨Source.quote_not_mem_escape unquoted, Source.less_not_mem_escape given.2, ?_⟩
  intro c delimiting inName
  have low : c.toNat < 97 := by
    have each : delimiters.all (fun c => c.toNat < 97) = true := by decide
    exact of_decide_eq_true (List.all_eq_true.mp each c delimiting)
  rw [lowered] at inName
  exact (quotable written inAttributes).undelimited c (Text.mem_of_mem_lower inName low) delimiting

theorem attributes_kept (tag : Text) :
    Source.attributes tag (kept attributes) = (rewritten tag attributes).flatMap quotation := by
  rw [rewritten, List.flatMap_map, List.flatMap_def, Source.attributes, List.flatMap_def]
  congr 1
  apply List.map_congr_left
  intro given member
  have unquoted := (mem_shown quotable ((Source.perm_sortAttributes _).mem_iff.mp member)).1
  dsimp only
  rw [Source.quoteValue_eq unquoted]
  simp [quotation]

theorem less_not_mem_attributes (tag : Text) : '<' ∉ Source.attributes tag (kept attributes) := by
  rw [attributes_kept quotable]
  intro member
  obtain ⟨entry, inRewritten, inQuotation⟩ := List.mem_flatMap.mp member
  obtain ⟨-, unbracketed, undelimited⟩ := mem_rewritten quotable inRewritten
  have named : '<' ∉ entry.1 := undelimited '<' (by decide)
  simp [quotation, named, unbracketed] at inQuotation

end Quotable

/-! ## Attributes that stay as they are -/

/-- Attributes in the form in which they are written again. -/
structure IsCanonical (attributes : Attributes) : Prop where
  lowered : ∀ given ∈ attributes, Text.lower given.1 = given.1
  unbracketed : ∀ given ∈ attributes, '<' ∉ given.2 ∧ '>' ∉ given.2
  ordered : Source.AreOrdered attributes

theorem append_mark_inj {mark : Char} {front other rest more : Text} (absent : mark ∉ front)
    (absentOther : mark ∉ other) (same : front ++ mark :: rest = other ++ mark :: more) :
    front = other ∧ rest = more := by
  have cut := Serialization.cut_append absent rest
  rw [same, Serialization.cut_append absentOther more] at cut
  obtain ⟨rfl, rfl⟩ := Prod.mk.inj (Option.some.inj cut)
  exact ⟨rfl, rfl⟩

/-- Quotations end where the next blank is missing, so they can be told from what follows. -/
theorem flatMap_quotation_inj {left right : Attributes} {c d : Char} {rest more : Text}
    (delimited : ∀ entry ∈ left, '=' ∉ entry.1 ∧ '"' ∉ entry.2)
    (delimitedOther : ∀ entry ∈ right, '=' ∉ entry.1 ∧ '"' ∉ entry.2) (ends : c ≠ ' ')
    (endsOther : d ≠ ' ')
    (same : left.flatMap quotation ++ c :: rest = right.flatMap quotation ++ d :: more) :
    left = right ∧ c = d ∧ rest = more := by
  induction left generalizing right with
  | nil =>
    cases right with
    | nil => exact ⟨rfl, List.cons.inj same⟩
    | cons entry others => exact absurd (List.cons.inj same).1 ends
  | cons first others induction =>
    cases right with
    | nil => exact absurd (List.cons.inj same).1.symm endsOther
    | cons second further =>
      rw [List.forall_mem_cons] at delimited delimitedOther
      obtain ⟨⟨assigned, unquoted⟩, delimited⟩ := delimited
      obtain ⟨⟨assignedOther, unquotedOther⟩, delimitedOther⟩ := delimitedOther
      simp only [List.flatMap_cons, quotation, List.cons_append, List.append_assoc, List.cons.injEq,
        List.nil_append, true_and] at same
      obtain ⟨name, same⟩ := append_mark_inj assigned assignedOther same
      obtain ⟨value, same⟩ := append_mark_inj unquoted unquotedOther (List.cons.inj same).2
      obtain ⟨rfl, following⟩ := induction delimited delimitedOther same
      exact ⟨congrArg (· :: others) (Prod.ext name value), following⟩

theorem IsCanonical.rewritten {attributes : Attributes} (canonical : IsCanonical attributes)
    (quotable : ∀ given ∈ attributes, IsQuotable given) {tag : Text} (plain : tag ≠ "meta".toList) :
    rewritten tag attributes = attributes := by
  have small : Piece.lowered attributes = attributes := by
    refine (List.map_congr_left (g := id) fun given member => ?_).trans (List.map_id attributes)
    exact Prod.ext (canonical.lowered given member) rfl
  have unchanged : kept attributes = attributes := by
    rw [kept, small, Builder.firstOfEach_eq_self canonical.ordered.nodup]
  rw [Piece.rewritten, shown, if_neg plain, unchanged, canonical.ordered.sortAttributes]
  refine (List.map_congr_left fun given member => ?_).trans (List.map_id attributes)
  obtain ⟨less, greater⟩ := canonical.unbracketed given member
  exact Prod.ext rfl (escape_eq_self (quotable given member).unreferenced less greater)

theorem isCanonical_of_rewritten {attributes : Attributes} {tag : Text}
    (plain : tag ≠ "meta".toList) (same : attributes = rewritten tag attributes) :
    IsCanonical attributes := by
  rw [rewritten, shown, if_neg plain] at same
  have written {entry : Text × Text} (member : entry ∈ attributes) :
      ∃ given ∈ attributes, entry.1 = Text.lower given.1 ∧ ∃ value, entry.2 = Source.escape value := by
    rw [same] at member
    obtain ⟨other, inSorted, rfl⟩ := List.mem_map.mp member
    obtain ⟨given, inAttributes, rfl⟩ :=
      mem_kept ((Source.perm_sortAttributes _).mem_iff.mp inSorted)
    exact ⟨given, inAttributes, rfl, _, rfl⟩
  constructor
  · intro entry member
    obtain ⟨given, -, lowered, -⟩ := written member
    rw [lowered, Text.lower_lower]
  · intro entry member
    obtain ⟨-, -, -, value, escaped⟩ := written member
    rw [escaped]
    exact ⟨Source.less_not_mem_escape value, Source.greater_not_mem_escape value⟩
  · have distinct : ((Source.sortAttributes (kept attributes)).map Prod.fst).Nodup :=
      ((Source.perm_sortAttributes _).map Prod.fst).nodup_iff.mpr (nodup_kept attributes)
    rw [same, Source.AreOrdered, List.pairwise_map]
    exact Source.areOrdered_of_nodup (Source.areSorted_sortAttributes _) distinct

/-- A start tag that is made again as it was written has its attributes in the form for that. -/
theorem startTag_inj {tag : Text} {attributes : Attributes}
    (quotable : ∀ given ∈ attributes, IsQuotable given) {d : Char} (ends : d ≠ ' ')
    {rest more : Text}
    (same : startTag tag attributes ++ rest =
      '<' :: tag ++ Source.attributes tag (kept attributes) ++ d :: more) :
    attributes = rewritten tag attributes ∧ '>' = d ∧ rest = more := by
  rw [startTag, attributes_kept quotable] at same
  simp only [List.cons_append, List.append_assoc, List.nil_append, List.cons.injEq, true_and,
    List.append_cancel_left_eq] at same
  refine flatMap_quotation_inj (fun entry member => ?_) (fun entry member => ?_) (by decide) ends same
  · refine ⟨fun inName => ?_, (quotable entry member).unquoted⟩
    exact (quotable entry member).undelimited '=' inName (by decide)
  · obtain ⟨unquoted, -, undelimited⟩ := mem_rewritten quotable member
    exact ⟨undelimited '=' (by decide), unquoted⟩

/-! ## Pieces that stay as they are -/

mutual

/-- Whether a piece has the form in which it is written again. -/
def IsFaithful : Piece → Prop
  | .text _ => True
  | .element tag attributes contents =>
    tag ∉ voidElements ∧ IsCanonical attributes ∧ AreFaithful contents
  | .void _ _ => False
  | .comment _ => True

/-- Whether all pieces have the form in which they are written again. -/
def AreFaithful : List Piece → Prop
  | [] => True
  | first :: rest => IsFaithful first ∧ AreFaithful rest

end

theorem ne_meta {tag : Text} (filled : tag ∉ voidElements) : tag ≠ "meta".toList := by
  rintro rfl
  exact filled (by decide)

mutual

theorem rebuilt_of_isFaithful : (piece : Piece) → IsProper piece → IsFaithful piece →
    rebuilt false piece = piece.source
  | .text _, _, _ => rfl
  | .element tag attributes contents, proper, faithful => by
    obtain ⟨-, -, quotable, inner⟩ := proper
    obtain ⟨filled, canonical, faithfulInner⟩ := faithful
    rw [rebuilt, if_neg (by simpa using filled), rebuiltAll_of_areFaithful contents inner faithfulInner,
      attributes_kept quotable, canonical.rewritten quotable (ne_meta filled)]
    rfl
  | .comment _, _, _ => rfl

theorem rebuiltAll_of_areFaithful : (pieces : List Piece) → AreProper pieces →
    AreFaithful pieces → rebuiltAll false pieces = sources pieces
  | [], _, _ => rfl
  | first :: rest, proper, faithful => by
    rw [rebuiltAll, sources, rebuilt_of_isFaithful first proper.1 faithful.1,
      rebuiltAll_of_areFaithful rest proper.2 faithful.2]

end

mutual

/-- What follows is carried along, because only the whole of both texts is compared. -/
theorem isFaithful_of_append : (piece : Piece) → IsProper piece → {rest more : Text} →
    piece.source ++ rest = rebuilt false piece ++ more → IsFaithful piece ∧ rest = more
  | .text content, _, _, _, same => ⟨trivial, List.append_cancel_left same⟩
  | .element tag attributes contents, proper, rest, more, same => by
    obtain ⟨-, -, quotable, inner⟩ := proper
    rw [source, rebuilt] at same
    split at same
    · simp only [rebuiltVoid, List.append_assoc, List.cons_append] at same
      exact absurd (startTag_inj quotable (d := '/') (by decide) (by simpa using same)).2.1 (by decide)
    · next filled =>
      have filled : tag ∉ voidElements := by simpa using filled
      simp only [List.append_assoc, List.cons_append, List.nil_append] at same
      obtain ⟨unchanged, -, same⟩ :=
        startTag_inj quotable (d := '>') (by decide) (by simpa using same)
      obtain ⟨faithful, same⟩ := areFaithful_of_append contents inner same
      exact ⟨⟨filled, isCanonical_of_rewritten (ne_meta filled) unchanged, faithful⟩,
        List.append_cancel_left same⟩
  | .void tag attributes, proper, rest, more, same => by
    rw [source, rebuilt, rebuiltVoid] at same
    exact absurd (startTag_inj proper.2 (d := '/') (by decide) (by simpa using same)).2.1 (by decide)
  | .comment content, _, _, _, same => ⟨trivial, List.append_cancel_left same⟩

theorem areFaithful_of_append : (pieces : List Piece) → AreProper pieces → {rest more : Text} →
    sources pieces ++ rest = rebuiltAll false pieces ++ more → AreFaithful pieces ∧ rest = more
  | [], _, _, _, same => ⟨trivial, same⟩
  | first :: others, proper, rest, more, same => by
    rw [sources, rebuiltAll, List.append_assoc, List.append_assoc] at same
    obtain ⟨faithful, same⟩ := isFaithful_of_append first proper.1 same
    obtain ⟨faithfulOthers, same⟩ := areFaithful_of_append others proper.2 same
    exact ⟨⟨faithful, faithfulOthers⟩, same⟩

end

/-! ## Comments that lose their delimiters -/

mutual

/-- How many comments are bare: those that stand in no element, or in void ones only. -/
def bareComments : Piece → Nat
  | .element tag _ contents => if voidElements.contains tag then bareCommentsIn contents else 0
  | .comment _ => 1
  | _ => 0

def bareCommentsIn : List Piece → Nat
  | [] => 0
  | first :: rest => bareComments first + bareCommentsIn rest

end

theorem comment_not_mem_of_bareCommentsIn {pieces : List Piece} (none : bareCommentsIn pieces = 0)
    (content : Text) : .comment content ∉ pieces := by
  intro member
  induction pieces with
  | nil => cases member
  | cons first rest induction =>
    rw [bareCommentsIn, Nat.add_eq_zero_iff] at none
    rcases List.mem_cons.mp member with rfl | later
    · cases none.1
    · exact induction none.2 later

mutual

theorem rebuilt_true_eq : (piece : Piece) → bareComments piece = 0 →
    rebuilt true piece = rebuilt false piece
  | .text _, _ => rfl
  | .element tag attributes contents, bare => by
    rw [rebuilt, rebuilt]
    split
    · next void =>
      rw [bareComments, if_pos void] at bare
      rw [rebuiltAll_true_eq contents bare]
    · rfl
  | .void _ _, _ => rfl

theorem rebuiltAll_true_eq : (pieces : List Piece) → bareCommentsIn pieces = 0 →
    rebuiltAll true pieces = rebuiltAll false pieces
  | [], _ => rfl
  | first :: rest, bare => by
    rw [bareCommentsIn, Nat.add_eq_zero_iff] at bare
    rw [rebuiltAll, rebuiltAll, rebuilt_true_eq first bare.1, rebuiltAll_true_eq rest bare.2]

end

theorem count_rebuiltVoid {attributes : Attributes}
    (quotable : ∀ given ∈ attributes, IsQuotable given) (tag : Text) :
    (rebuiltVoid tag attributes).count '<' ≤ (startTag tag attributes).count '<' := by
  have none := List.count_eq_zero.mpr (less_not_mem_attributes quotable tag)
  simp only [rebuiltVoid, startTag, List.count_append, none]
  have ends : ['/', '>'].count '<' = 0 := by decide
  omega

mutual

/-- Each bare comment loses an opening bracket, and no piece gains one. -/
theorem count_rebuilt (bare : Bool) : (piece : Piece) → IsProper piece →
    (rebuilt bare piece).count '<' + (if bare then bareComments piece else 0) ≤
      piece.source.count '<'
  | .text content, _ => by simp [rebuilt, source, bareComments]
  | .element tag attributes contents, proper => by
    obtain ⟨-, -, quotable, inner⟩ := proper
    rw [rebuilt, source, bareComments]
    have start := count_rebuiltVoid quotable tag
    split
    · have within := count_rebuiltAll bare contents inner
      simp only [List.count_append] at start ⊢
      omega
    · have within := count_rebuiltAll false contents inner
      have none := List.count_eq_zero.mpr (less_not_mem_attributes quotable tag)
      simp only [startTag, List.count_append, none] at start ⊢
      simp only [Bool.false_eq_true, if_false, ite_self] at within ⊢
      omega
  | .void tag attributes, proper => by
    have start := count_rebuiltVoid proper.2 tag
    simpa [rebuilt, source, bareComments] using start
  | .comment content, _ => by
    cases bare with
    | true =>
      have opening : "<!--".toList.count '<' = 1 := by decide
      rw [source, Serialization.comment, List.count_append, List.count_append, opening]
      change content.count '<' + 1 ≤ _
      omega
    | false => exact Nat.le_refl _

theorem count_rebuiltAll (bare : Bool) : (pieces : List Piece) → AreProper pieces →
    (rebuiltAll bare pieces).count '<' + (if bare then bareCommentsIn pieces else 0) ≤
      (sources pieces).count '<'
  | [], _ => by simp [rebuiltAll, sources, bareCommentsIn]
  | first :: rest, proper => by
    have atFirst := count_rebuilt bare first proper.1
    have atRest := count_rebuiltAll bare rest proper.2
    rw [rebuiltAll, sources, List.count_append, List.count_append, bareCommentsIn]
    cases bare with
    | true =>
      simp only [if_true] at atFirst atRest ⊢
      omega
    | false =>
      simp only [Bool.false_eq_true, if_false] at atFirst atRest ⊢
      omega

end

theorem bareCommentsIn_eq_zero {pieces : List Piece} (faithful : AreFaithful pieces)
    (comments : ∀ content, .comment content ∉ pieces) : bareCommentsIn pieces = 0 := by
  induction pieces with
  | nil => rfl
  | cons first rest induction =>
    have others : ∀ content, .comment content ∉ rest := fun content member =>
      comments content (List.mem_cons_of_mem first member)
    rw [bareCommentsIn, induction faithful.2 others]
    cases first with
    | text content => rfl
    | element tag attributes contents =>
      rw [bareComments, if_neg (by simpa using faithful.1.1)]
    | void tag attributes => cases faithful.1
    | comment content => exact absurd List.mem_cons_self (comments content)

/-- Text without the line break that may stand at its start. -/
def dropBreak : Text → Text
  | '\n' :: rest => rest
  | other => other

theorem count_dropBreak (text : Text) : (dropBreak text).count '<' = text.count '<' := by
  rw [dropBreak.eq_def]
  split
  · exact (List.count_cons_of_ne (by decide)).symm
  · rfl

theorem dropBreak_of_ne {c : Char} (other : c ≠ '\n') (rest : Text) :
    dropBreak (c :: rest) = c :: rest := by
  rw [dropBreak.eq_def]
  split
  · next same => exact absurd (List.cons.inj same).1 other
  · rfl

theorem dropBreak_inj {left right : Text} (heads : left.head? = right.head?)
    (same : dropBreak left = dropBreak right) : left = right := by
  cases left with
  | nil =>
    cases right with
    | nil => rfl
    | cons d more => cases heads
  | cons c rest =>
    cases right with
    | nil => cases heads
    | cons d more =>
      obtain rfl := Option.some.inj heads
      by_cases isBreak : c = '\n'
      · subst isBreak
        exact congrArg ('\n' :: ·) same
      · rwa [dropBreak_of_ne isBreak, dropBreak_of_ne isBreak] at same

theorem head?_rebuilt (piece : Piece) : (rebuilt false piece).head? = piece.source.head? := by
  cases piece with
  | text content => rfl
  | element tag attributes contents =>
    rw [rebuilt]
    split <;> rfl
  | void tag attributes => rfl
  | comment content => rfl

theorem head?_rebuiltAll (pieces : List Piece) :
    (rebuiltAll false pieces).head? = (sources pieces).head? := by
  induction pieces with
  | nil => rfl
  | cons first rest induction =>
    rw [rebuiltAll, sources, List.head?_append, List.head?_append, head?_rebuilt, induction]

/--
Pieces are written again as they were, but for a line break at the start,
exactly if they have the form for it and there is no comment among them.
-/
theorem rebuiltAll_eq_sources_iff {pieces : List Piece} (proper : AreProper pieces) (drop : Bool) :
    (if drop then dropBreak (rebuiltAll true pieces) else rebuiltAll true pieces) =
        (if drop then dropBreak (sources pieces) else sources pieces) ↔
      AreFaithful pieces ∧ ∀ content, .comment content ∉ pieces := by
  constructor
  · intro same
    have brackets : (rebuiltAll true pieces).count '<' = (sources pieces).count '<' := by
      have counted := congrArg (List.count '<') same
      split at counted
      · rwa [count_dropBreak, count_dropBreak] at counted
      · exact counted
    have bare : bareCommentsIn pieces = 0 := by
      have bound := count_rebuiltAll true pieces proper
      rw [if_pos rfl] at bound
      omega
    refine ⟨?_, comment_not_mem_of_bareCommentsIn bare⟩
    rw [rebuiltAll_true_eq pieces bare] at same
    have whole : rebuiltAll false pieces = sources pieces := by
      split at same
      · exact dropBreak_inj (head?_rebuiltAll pieces) same
      · exact same
    have appended : sources pieces ++ [] = rebuiltAll false pieces ++ [] := by rw [whole]
    exact (areFaithful_of_append pieces proper appended).1
  · rintro ⟨faithful, comments⟩
    rw [rebuiltAll_true_eq pieces (bareCommentsIn_eq_zero faithful comments),
      rebuiltAll_of_areFaithful pieces proper faithful]

end Piece

end HtmlJsx
