import HtmlJsx.Proofs.Sweeping

/-!
# The indentation of line breaks

A line break of running text is drawn with two indent units more than the
level of the text, the closing of an element takes one unit off, and in the end
three units are swept out after every line break.  Together this leaves one
unit for each element that is open, and one less before the end tag of the
innermost one.

While an element is drawn, its last line break may be open: nothing has been
written after its indentation yet.  What is written next decides how many
units it keeps.  So the invariant of a rendering speaks of all line breaks but
an open one, and an open one is either closed by solid markup, or shortened by
one unit before an end tag, or trimmed away at the end.
-/

namespace HtmlJsx

namespace Traced

/-- What follows a character that has been kept in a sweep is the sweep of what followed it. -/
theorem sweepFrom_suffix {pattern : Text} (nonempty : pattern ≠ []) {traced front rest : Traced}
    {glyph : Glyph} (swept : sweepFrom pattern 0 traced = front ++ glyph :: rest) :
    ∃ before after, traced = before ++ glyph :: after ∧
      sweepFrom pattern 0 (glyph :: after) = glyph :: rest := by
  induction traced using sweep_induction nonempty generalizing front with
  | nil =>
    rw [sweepFrom_nil] at swept
    cases front <;> cases swept
  | found first tail others shown induction =>
    rw [sweepFrom_found shown] at swept
    cases front with
    | nil =>
      cases swept
      exact ⟨[], tail ++ others, rfl, sweepFrom_found shown others⟩
    | cons head front =>
      obtain ⟨rfl, remaining⟩ := List.cons.inj swept
      obtain ⟨before, after, rfl, later⟩ := induction remaining
      exact ⟨first :: tail ++ before, after, by simp, later⟩
  | passed first others apart induction =>
    rw [sweepFrom_passed apart] at swept
    cases front with
    | nil =>
      cases swept
      exact ⟨[], others, rfl, sweepFrom_passed apart⟩
    | cons head front =>
      obtain ⟨rfl, remaining⟩ := List.cons.inj swept
      obtain ⟨before, after, rfl, later⟩ := induction remaining
      exact ⟨first :: before, after, rfl, later⟩

theorem sweepFrom_of_not_mem {c : Char} {more : Text} {traced : Traced}
    (absent : c ∉ plain traced) : sweepFrom (c :: more) 0 traced = traced := by
  induction traced with
  | nil => rfl
  | cons glyph rest induction =>
    rw [plain_cons, List.mem_cons, not_or] at absent
    rw [sweepFrom_passed, induction absent.2]
    intro starts
    exact absent.1 (List.cons_prefix_cons.mp starts).1

/-- A trimmed text ends with a solid character, if with any. -/
theorem solid_of_getLast?_trim (traced : Traced) :
    ∀ glyph ∈ (trim traced).getLast?, isBlankGlyph glyph = false := by
  intro glyph edge
  rw [trim, List.getLast?_reverse] at edge
  have solid := List.head?_dropWhile_not isBlankGlyph (traced.dropWhile isBlankGlyph).reverse
  rw [Option.mem_def.mp edge] at solid
  simpa using solid

end Traced

namespace LineBreaks

open Outcome Traced

/-- A line break of running text where so many elements are open. -/
def lineBreak (opened : Nat) : Glyph :=
  ⟨'\n', .layout opened⟩

/-- How many units a line break keeps, by the character that follows: one less before an end tag. -/
def unitsBefore (opened : Nat) (next : Glyph) : Nat :=
  if next.origin = .endTag then opened - 1 else opened

/-- After a line break stand its units, some more of them, and a solid character. -/
def Indented (unit : Text) (more opened : Nat) (rest : Traced) : Prop :=
  ∃ next back,
    rest = of (.layout opened) (Text.copies (unitsBefore opened next + more) unit) ++
      next :: back ∧
    next.origin.isLayout = false ∧ isBlankGlyph next = false ∧
    (next.origin = .endTag → 0 < opened)

/-- Every line break is indented for the place where the fragment is drawn. -/
def Settled (unit : Text) (traced : Traced) : Prop :=
  ∀ front opened rest, traced = front ++ lineBreak opened :: rest →
    Indented unit Conversion.bodyLevels opened rest

/-- Every line break is indented but for one at the end, which is open, at a given depth. -/
def Laid (unit : Text) (depth : Nat) (traced : Traced) : Prop :=
  ∀ front opened rest, traced = front ++ lineBreak opened :: rest →
    Indented unit Conversion.bodyLevels opened rest ∨
      opened = depth ∧ rest = of (.layout depth) (Text.copies (depth + Conversion.bodyLevels) unit)

/-- There is no line break of running text. -/
def Unbroken (traced : Traced) : Prop :=
  ∀ opened, lineBreak opened ∉ traced

section Unbroken

theorem unbroken_of_origin {traced : Traced}
    (none : ∀ glyph ∈ traced, glyph.origin.isLayout = false) : Unbroken traced := by
  intro opened member
  cases none _ member

theorem unbroken_of {origin : Origin} (other : origin.isLayout = false) (text : Text) :
    Unbroken (of origin text) := by
  apply unbroken_of_origin
  intro glyph member
  rw [origin_of_mem_of member]
  exact other

theorem newline_not_mem_copies {unit : Text} (oneLine : '\n' ∉ unit) (origin : Origin)
    (count : Nat) : '\n' ∉ plain (of origin (Text.copies count unit)) := by
  rw [plain_of, Text.copies]
  simpa using fun _ => oneLine

theorem unbroken_copies {unit : Text} (oneLine : '\n' ∉ unit) (origin : Origin) (count : Nat) :
    Unbroken (of origin (Text.copies count unit)) := by
  intro opened member
  exact newline_not_mem_copies oneLine origin count (List.mem_map_of_mem member)

end Unbroken

/-! ## Line breaks that are indented -/

namespace Indented

variable {unit : Text} {more opened : Nat} {rest : Traced}

theorem append (indented : Indented unit more opened rest) (others : Traced) :
    Indented unit more opened (rest ++ others) := by
  obtain ⟨next, back, rfl, shown, solid, inside⟩ := indented
  exact ⟨next, back ++ others, by simp, shown, solid, inside⟩

/-- Taking off blanks at the end does not change what follows a line break. -/
theorem of_append_blanks {blanks : Traced} (blank : ∀ glyph ∈ blanks, isBlankGlyph glyph = true)
    (indented : Indented unit more opened (rest ++ blanks)) : Indented unit more opened rest := by
  obtain ⟨next, back, split, shown, solid, inside⟩ := indented
  obtain ⟨kept, rfl, -⟩ := append_blanks_eq_append_solid blank solid split
  exact ⟨next, kept, rfl, shown, solid, inside⟩

end Indented

namespace Settled

variable {unit : Text}

theorem of_unbroken {traced : Traced} (unbroken : Unbroken traced) : Settled unit traced := by
  rintro front opened rest rfl
  exact absurd (by simp) (unbroken opened)

theorem append {left right : Traced} (settledLeft : Settled unit left)
    (settledRight : Settled unit right) : Settled unit (left ++ right) := by
  intro front opened rest split
  rcases append_eq_append_cons split with ⟨inner, before, rfl⟩ | ⟨inner, -, after⟩
  · exact (settledLeft front opened inner before).append right
  · exact settledRight inner opened rest after

theorem of_append_blanks {traced blanks : Traced}
    (blank : ∀ glyph ∈ blanks, isBlankGlyph glyph = true)
    (settled : Settled unit (traced ++ blanks)) : Settled unit traced := by
  rintro front opened rest rfl
  apply Indented.of_append_blanks blank
  exact settled front opened (rest ++ blanks) (by simp)

theorem laid {traced : Traced} (settled : Settled unit traced) (depth : Nat) :
    Laid unit depth traced := by
  intro front opened rest split
  exact .inl (settled front opened rest split)

end Settled

namespace Laid

variable {unit : Text} {depth : Nat}

theorem append_of_settled {left right : Traced} (settled : Settled unit left)
    (laid : Laid unit depth right) : Laid unit depth (left ++ right) := by
  intro front opened rest split
  rcases append_eq_append_cons split with ⟨inner, before, rfl⟩ | ⟨inner, -, after⟩
  · exact .inl ((settled front opened inner before).append right)
  · exact laid inner opened rest after

/-- An open line break is closed by solid markup that is no end tag. -/
theorem append_of_head {left right : Traced} (laidLeft : Laid unit depth left)
    (laidRight : Laid unit depth right)
    (head : ∀ glyph ∈ right.head?, glyph.origin.isLayout = false ∧ isBlankGlyph glyph = false ∧
      glyph.origin ≠ .endTag) : Laid unit depth (left ++ right) := by
  intro front opened rest split
  rcases append_eq_append_cons split with ⟨inner, before, rfl⟩ | ⟨inner, -, after⟩
  · rcases laidLeft front opened inner before with indented | ⟨rfl, rfl⟩
    · exact .inl (indented.append right)
    · cases right with
      | nil => exact .inr ⟨rfl, List.append_nil _⟩
      | cons next back =>
        obtain ⟨shown, solid, other⟩ := head next rfl
        have units : unitsBefore opened next = opened := if_neg other
        exact .inl ⟨next, back, by rw [units], shown, solid, fun wrong => absurd wrong other⟩
  · exact laidRight inner opened rest after

/-- A line break is open at the end of its text, and the next character of the text closes it. -/
theorem cons {rest : Traced} (oneLine : '\n' ∉ unit) (laid : Laid unit depth rest)
    (head : ∀ glyph ∈ rest.head?, isBlankGlyph glyph = false ∧ glyph.origin = .text) :
    Laid unit depth (of (.layout depth)
      ('\n' :: Text.copies (depth + Conversion.bodyLevels) unit) ++ rest) := by
  have blanks := unbroken_copies oneLine (.layout depth) (depth + Conversion.bodyLevels)
  have single : Laid unit depth (of (.layout depth)
      ('\n' :: Text.copies (depth + Conversion.bodyLevels) unit)) := by
    intro front opened after split
    cases front with
    | nil =>
      obtain ⟨same, rfl⟩ := List.cons.inj split
      cases same
      exact .inr ⟨rfl, rfl⟩
    | cons first front =>
      have placed : of (.layout depth) (Text.copies (depth + Conversion.bodyLevels) unit) =
          front ++ lineBreak opened :: after := (List.cons.inj split).2
      exact absurd (by rw [placed]; simp) (blanks opened)
  apply single.append_of_head laid
  intro glyph edge
  obtain ⟨solid, text⟩ := head glyph edge
  rw [text]
  exact ⟨rfl, solid, by decide⟩

theorem right_of_append {left right : Traced} (laid : Laid unit depth (left ++ right)) :
    Laid unit depth right := by
  rintro front opened rest rfl
  exact laid (left ++ front) opened rest (by simp)

/-- What is written up to a solid character has no open line break. -/
theorem settled_of_last {traced blanks : Traced} (blank : unit.isBlank = true)
    (laid : Laid unit depth (traced ++ blanks))
    (blankAfter : ∀ glyph ∈ blanks, isBlankGlyph glyph = true)
    (last : ∀ glyph ∈ traced.getLast?, isBlankGlyph glyph = false) : Settled unit traced := by
  rintro front opened rest rfl
  have placed : front ++ lineBreak opened :: rest ++ blanks =
      front ++ lineBreak opened :: (rest ++ blanks) := by simp
  rcases laid front opened _ placed with indented | ⟨rfl, units⟩
  · exact indented.of_append_blanks blankAfter
  · have blankRest : ∀ glyph ∈ lineBreak opened :: rest, isBlankGlyph glyph = true := by
      rw [List.forall_mem_cons]
      refine ⟨rfl, ?_⟩
      intro glyph member
      have among := List.mem_append_left blanks member
      rw [units] at among
      obtain ⟨c, within, rfl⟩ := List.mem_map.mp among
      exact List.all_eq_true.mp (Text.isBlank_copies blank _) c within
    rw [List.getLast?_append_of_ne_nil _ (List.cons_ne_nil _ _)] at last
    have solid := last _ (List.getLast?_eq_some_getLast (List.cons_ne_nil _ _))
    rw [blankRest _ (List.getLast_mem _)] at solid
    cases solid

/-- The closing of an element takes one unit off an open line break and puts an end tag after it. -/
theorem close {traced tag : Traced} (nonempty : unit ≠ []) (blank : unit.isBlank = true)
    (laid : Laid unit (depth + 1) traced) (unbroken : Unbroken tag) :
    Settled unit (trimSuffix traced unit ++ ⟨'<', .endTag⟩ :: tag) := by
  have closing : Unbroken (⟨'<', .endTag⟩ :: tag) := by
    intro opened member
    rcases List.mem_cons.mp member with wrong | later
    · cases wrong
    · exact unbroken opened later
  obtain ⟨removed, blanks, whole⟩ := exists_eq_trimSuffix_append traced blank
  intro front opened rest split
  rcases append_eq_append_cons split with ⟨inner, before, rfl⟩ | ⟨inner, -, after⟩
  · have placed : traced = front ++ lineBreak opened :: (inner ++ removed) := by
      rw [whole, before, List.append_assoc, List.cons_append]
    rcases laid front opened _ placed with indented | ⟨rfl, units⟩
    · exact (indented.of_append_blanks blanks).append _
    · -- The unit that is taken off is the last one of the open line break.
      have last : Text.copies (depth + 1 + Conversion.bodyLevels) unit =
          Text.copies (depth + Conversion.bodyLevels) unit ++ unit := by
        rw [show depth + 1 + Conversion.bodyLevels = depth + Conversion.bodyLevels + 1 by omega,
          Text.copies_add]
        simp [Text.copies]
      rw [units, last, of_append, ← List.cons_append, ← List.append_assoc] at placed
      rw [placed, trimSuffix_append_of nonempty, List.append_cancel_left_eq,
        List.cons_inj_right] at before
      refine ⟨⟨'<', .endTag⟩, tag, ?_, rfl, by decide, fun _ => Nat.succ_pos depth⟩
      rw [← before]
      rfl
  · exact absurd (by rw [after]; simp) (closing opened)

end Laid

/-! ## Renderings -/

mutual

/-- Whether a tree has no special nodes and no two texts side by side. -/
def isTidy : Node → Bool
  | .element _ _ children => areTidy children
  | .special _ _ => false
  | _ => true

/-- Whether sibling nodes are tidy and no two texts are side by side. -/
def areTidy : List Node → Bool
  | [] => true
  | first :: rest => isTidy first && !(first.isText && rest.head?.any Node.isText) && areTidy rest

end

section Rendering

variable {unit : Text}

/-- Running text has its line breaks indented; after one of them it goes on with a solid character. -/
theorem laid_reflow (oneLine : '\n' ∉ unit) (opened : Nat) (skipping : Bool) (source : Text) :
    Laid unit opened (Provenance.reflow
        ('\n' :: Text.copies (opened + Conversion.bodyLevels) unit) opened skipping source) ∧
      (skipping = true → ∀ glyph ∈ (Provenance.reflow
        ('\n' :: Text.copies (opened + Conversion.bodyLevels) unit) opened skipping source).head?,
          isBlankGlyph glyph = false ∧ glyph.origin = .text) := by
  induction source generalizing skipping with
  | nil =>
    rw [Provenance.reflow]
    exact ⟨(Settled.of_unbroken (unbroken_of_origin (by simp))).laid opened, by simp⟩
  | cons c rest induction =>
    rw [Provenance.reflow]
    split
    · exact ⟨(induction true).1, fun _ => (induction true).2 rfl⟩
    · next shown =>
      split
      · next newline =>
        constructor
        · exact Laid.cons oneLine (induction true).1 ((induction true).2 rfl)
        · rintro rfl
          exact absurd (by rw [newline]; decide) shown
      · constructor
        · have single : Settled unit [⟨c, .text⟩] := Settled.of_unbroken (unbroken_of rfl [c])
          exact Laid.append_of_settled single (induction false).1
        · rintro rfl glyph edge
          cases edge
          exact ⟨by simpa [isBlankGlyph] using shown, rfl⟩

theorem laid_text (oneLine : '\n' ∉ unit) {opened : Nat} {parent : Option Text} {inPre : Bool}
    {content : Text} {written : Traced}
    (rendered : Provenance.text unit (opened + 1) opened parent inPre content = .ok written) :
    Laid unit opened written := by
  have plainly (text : Text) : Laid unit opened (of .text text) :=
    (Settled.of_unbroken (unbroken_of rfl text)).laid opened
  rw [Provenance.text] at rendered
  split at rendered
  · cases rendered
    exact plainly []
  · split at rendered
    · cases rendered
      exact plainly _
    · split at rendered
      · obtain ⟨blanks, copied, rfl⟩ := map_eq_ok_iff.mp rendered
        rw [Canvas.copiesOf, if_neg (by omega)] at copied
        obtain rfl := Except.ok.inj copied
        have units : ((opened : Int) + 1 + 2).toNat = opened + Conversion.bodyLevels := by
          rw [Conversion.bodyLevels]
          omega
        rw [units]
        exact (laid_reflow oneLine opened false _).1
      · cases rendered
        exact plainly _

/-- An element has no open line break, whether it has an end tag or closes itself. -/
theorem settled_element (nonempty : unit ≠ []) (blank : unit.isBlank = true) {opened : Nat}
    {inPre : Bool} {level : Int} {tag : Text} {attributes : Attributes} {children : List Node}
    {start inside : Traced}
    (started : Provenance.startTag tag attributes children = .ok start)
    (filled : Provenance.nodes unit level (opened + 1) (some tag) inPre children = .ok inside)
    (laid : Laid unit (opened + 1) inside) :
    Settled unit
      (trimSuffix (start ++ inside) unit ++ of .endTag (Rendering.endTag tag children)) := by
  have begun : Settled unit start := 
    Settled.of_unbroken (unbroken_of_origin (Provenance.isLayout_of_mem_startTag started))
  cases closing : Canvas.isSelfClosing tag children with
  | false =>
    rw [Rendering.endTag, closing, if_neg Bool.false_ne_true]
    exact (Laid.append_of_settled begun laid).close nonempty blank
      (unbroken_of rfl ('/' :: ElementName.toJsx tag ++ ['>']))
  | true =>
    have last : ∀ glyph ∈ inside.getLast?, isBlankGlyph glyph = false := by
      intro glyph edge
      rcases (Provenance.ends_of_selfClosing blank closing filled).2 glyph edge with rfl | rfl
      · decide
      · decide
    obtain ⟨removed, blanks, whole⟩ := exists_eq_trimSuffix_append (start ++ inside) blank
    have filledUp : Settled unit inside := by
      rw [← List.append_nil inside] at laid
      exact laid.settled_of_last blank (by simp) last
    have settled := begun.append filledUp
    rw [whole] at settled
    exact (settled.of_append_blanks blanks).append (Settled.of_unbroken (unbroken_of rfl _))

/-- What follows a text among tidy nodes closes a line break that the text has left open. -/
theorem head_of_areTidy (blank : unit.isBlank = true) {level : Int} {opened : Nat}
    {parent : Option Text} {inPre : Bool} {drawn : List Node} (tidy : areTidy drawn = true)
    (apart : drawn.head?.any Node.isText = false) {written : Traced}
    (rendered : Provenance.nodes unit level opened parent inPre drawn = .ok written) :
    ∀ glyph ∈ written.head?, glyph.origin.isLayout = false ∧ isBlankGlyph glyph = false ∧
      glyph.origin ≠ .endTag := by
  cases drawn with
  | nil =>
    rw [Provenance.nodes] at rendered
    cases rendered
    simp
  | cons first rest =>
    obtain ⟨before, after, begun, -, rfl⟩ := Provenance.nodes_cons_eq_ok rendered
    intro glyph edge
    rcases Provenance.node_of_not_text blank apart begun with
      ⟨inner, rfl⟩ | ⟨inner, rfl⟩ | ⟨kind, content, rfl, -⟩
    · cases edge
      decide
    · cases edge
      decide
    · cases tidy

mutual

theorem settled_node (nonempty : unit ≠ []) (blank : unit.isBlank = true)
    (oneLine : '\n' ∉ unit) {opened : Nat} {parent : Option Text} {inPre : Bool} :
    (drawn : Node) → {written : Traced} → drawn.isText = false → isTidy drawn = true →
    Provenance.node unit (opened + 1) opened parent inPre drawn = .ok written →
    Settled unit written
  | .element tag attributes children, _, _, tidy, rendered => by
    obtain ⟨start, inside, started, filled, rfl⟩ := Provenance.node_element_eq_ok rendered
    exact settled_element nonempty blank started filled
      (laid_nodes nonempty blank oneLine children tidy filled)
  | .text _, _, other, _, _ => by cases other
  | .comment content, _, _, _, rendered => by
    rw [Provenance.node] at rendered
    cases rendered
    exact Settled.of_unbroken (unbroken_of rfl _)
  | .special _ _, _, _, tidy, _ => by cases tidy

/-- Tidy nodes have all their line breaks indented but for an open one at the end. -/
theorem laid_nodes (nonempty : unit ≠ []) (blank : unit.isBlank = true) (oneLine : '\n' ∉ unit)
    {opened : Nat} {parent : Option Text} {inPre : Bool} :
    (drawn : List Node) → {written : Traced} → areTidy drawn = true →
    Provenance.nodes unit (opened + 1) opened parent inPre drawn = .ok written →
    Laid unit opened written
  | [], _, _, rendered => by
    rw [Provenance.nodes] at rendered
    cases rendered
    exact (Settled.of_unbroken (unbroken_of_origin (by simp))).laid opened
  | first :: rest, _, tidy, rendered => by
    obtain ⟨before, after, begun, ended, rfl⟩ := Provenance.nodes_cons_eq_ok rendered
    rw [areTidy, Bool.and_eq_true, Bool.and_eq_true] at tidy
    obtain ⟨⟨tidyFirst, apart⟩, tidyRest⟩ := tidy
    have laidRest := laid_nodes nonempty blank oneLine rest tidyRest ended
    cases isText : first.isText with
    | true =>
      obtain ⟨content, rfl⟩ := Node.eq_text_of_isText isText
      rw [Provenance.node] at begun
      apply (laid_text oneLine begun).append_of_head laidRest
      exact head_of_areTidy blank tidyRest (by simpa [Node.isText] using apart) ended
    | false =>
      apply Laid.append_of_settled _ laidRest
      exact settled_node nonempty blank oneLine first isText tidyFirst begun

end

theorem laid_whole (nonempty : unit ≠ []) (blank : unit.isBlank = true) (oneLine : '\n' ∉ unit)
    {container : Node} (tidy : isTidy container = true) {drawn : Traced}
    (rendered : Provenance.whole unit container = .ok drawn) : Laid unit 0 drawn := by
  rw [Provenance.whole] at rendered
  split at rendered
  · apply laid_nodes nonempty blank oneLine _ _ rendered
    cases container with
    | element tag attributes children => exact tidy
    | text content => rfl
    | comment content => rfl
    | special kind content => rfl
  · next several =>
    obtain ⟨written, found, rfl⟩ := map_eq_ok_iff.mp rendered
    have seed := unbroken_copies oneLine (.layout 0) Conversion.bodyLevels
    apply Laid.append_of_settled (Settled.of_unbroken seed)
    apply Settled.laid
    apply settled_node nonempty blank oneLine container _ tidy found
    cases container with
    | text content => exact absurd rfl several
    | element tag attributes children => rfl
    | comment content => rfl
    | special kind content => rfl

/-- Trimming takes an open line break away, so that every line break left is indented. -/
theorem Laid.trim {depth : Nat} (blank : unit.isBlank = true) {drawn : Traced}
    (laid : Laid unit depth drawn) :
    Settled unit (Traced.trim drawn ++ [⟨'\n', .ending⟩]) := by
  obtain ⟨before, after, -, blankAfter, whole⟩ := exists_eq_append_trim drawn
  have last := solid_of_getLast?_trim drawn
  rw [whole, List.append_assoc] at laid
  have settled := laid.right_of_append.settled_of_last blank blankAfter last
  exact settled.append (Settled.of_unbroken (unbroken_of rfl ['\n']))

/-- The sweep takes as many units after a line break as the place of the fragment is deep. -/
theorem Indented.unindent {opened : Nat} (blank : unit.isBlank = true) (oneLine : '\n' ∉ unit)
    {rest : Traced} (indented : Indented unit Conversion.bodyLevels opened rest) {after : Traced}
    (swept : Traced.unindent unit (lineBreak opened :: rest) = lineBreak opened :: after) :
    Indented unit 0 opened after := by
  obtain ⟨next, back, rfl, shown, solid, inside⟩ := indented
  have found : plain (lineBreak opened ::
      of (.layout opened) (Text.copies Conversion.bodyLevels unit)) =
        Conversion.indentation unit := by
    rw [plain_cons, plain_of]
    rfl
  have kept := newline_not_mem_copies oneLine (.layout opened) (unitsBefore opened next)
  rw [Nat.add_comm, Text.copies_add, of_append, List.append_assoc, ← List.cons_append,
    Traced.unindent, sweepFrom_found found, List.cons_inj_right,
    sweepFrom_append_solid indentation_ne_nil (Conversion.isBlank_indentation blank) solid,
    Conversion.indentation, sweepFrom_of_not_mem kept] at swept
  exact ⟨next, _, swept.symm, shown, solid, inside⟩

end Rendering

/--
In the final form of an output, every line break of running text is followed by
one unit for each open element, or one less before the end tag of the innermost
of them, and then by the next solid character.
-/
theorem lineBreak_indented (options : Options) (oneLine : '\n' ∉ options.indent)
    {container : Node} (tidy : isTidy container = true) {canvas : Canvas}
    (rendered : Conversion.render options.indent container = .ok canvas) :
    ∃ drawn, Provenance.whole options.indent container = .ok drawn ∧
      canvas.output = plain (finish options.indent drawn) ∧
      ∀ front opened rest, finish options.indent drawn = front ++ lineBreak opened :: rest →
        ∃ next back,
          rest = of (.layout opened) (Text.copies (unitsBefore opened next) options.indent) ++
            next :: back ∧
          next.origin.isLayout = false ∧ isBlankGlyph next = false ∧
          (next.origin = .endTag → 0 < opened) := by
  obtain ⟨drawn, found, output⟩ := Provenance.output_of_render options.indent_blank rendered
  refine ⟨drawn, found, output, ?_⟩
  intro front opened rest split
  have laid := laid_whole options.indent_nonempty options.indent_blank oneLine tidy found
  obtain ⟨before, after, placed, swept⟩ := sweepFrom_suffix indentation_ne_nil split
  have indented := laid.trim options.indent_blank before opened after placed
  exact indented.unindent options.indent_blank oneLine swept

/-- A paragraph with a line break between two words and one before its end. -/
def brokenTwice : Node :=
  .element "div".toList [] [.element "p".toList [] [.text "a\n b\n".toList]]

theorem lineBreak_indented_brokenTwice :
    ∃ canvas drawn, Conversion.render "  ".toList brokenTwice = .ok canvas ∧
      canvas.output = "<p>a\n  b\n</p>\n".toList ∧
      finish "  ".toList drawn = of .startTag "<p>".toList ++ of .text "a".toList ++
        lineBreak 1 :: (of (.layout 1) "  ".toList ++ of .text "b".toList ++
          lineBreak 1 :: (of .endTag "</p>".toList ++ [⟨'\n', .ending⟩])) ∧
      ∀ front opened rest, finish "  ".toList drawn = front ++ lineBreak opened :: rest →
        ∃ next back,
          rest = of (.layout opened) (Text.copies (unitsBefore opened next) "  ".toList) ++
            next :: back ∧
          next.origin.isLayout = false ∧ isBlankGlyph next = false ∧
          (next.origin = .endTag → 0 < opened) := by
  have shown : (Conversion.render "  ".toList brokenTwice).toOption.map Canvas.output =
      some "<p>a\n  b\n</p>\n".toList := by
    decide +kernel
  have marked : (Provenance.whole "  ".toList brokenTwice).toOption.map (finish "  ".toList) =
      some (of .startTag "<p>".toList ++ of .text "a".toList ++
        lineBreak 1 :: (of (.layout 1) "  ".toList ++ of .text "b".toList ++
          lineBreak 1 :: (of .endTag "</p>".toList ++ [⟨'\n', .ending⟩]))) := by
    decide +kernel
  cases rendered : Conversion.render "  ".toList brokenTwice with
  | error interruption =>
    rw [rendered] at shown
    cases shown
  | ok canvas =>
    rw [rendered] at shown
    obtain ⟨drawn, found, -, indented⟩ := lineBreak_indented {} (by decide) rfl rendered
    have whole : Provenance.whole "  ".toList brokenTwice = .ok drawn := found
    rw [whole] at marked
    exact ⟨canvas, drawn, rfl, Option.some.inj shown, Option.some.inj marked, indented⟩

end LineBreaks

end HtmlJsx
