import HtmlJsx.Proofs.Reader.Passage
import HtmlJsx.Proofs.Sweeping

/-!
# Comments end at their own end marks

When a comment is drawn, the end marks in it are broken up by blanks.  Later
steps take blanks away from the whole output, so they might bring the two
characters of a mark together again.  They do not: an indent unit and the
blanks around an output end before the brace of a comment, and what is swept
out of it stands after a line break that is kept.  So in the output, whatever
a comment says, the first end mark after its start is its own.
-/

namespace HtmlJsx

/-! ## Neighbours in an unindented text -/

namespace Conversion

/-- A text begins with the same character when it is unindented. -/
theorem head?_replaceFrom (unit text : Text) :
    (Text.replaceFrom (indentation unit) ['\n'] 0 text).head? = text.head? := by
  cases text with
  | nil => rfl
  | cons c rest =>
    rw [Text.replaceFrom]
    split
    · next starts =>
      have same := (List.cons_prefix_cons.mp (List.isPrefixOf_iff_prefix.mp starts)).1
      rw [← same]
      rfl
    · rfl

/-- Neighbours of which the first is no line break have been neighbours before. -/
theorem infix_of_infix_replaceFrom {unit : Text} {left right : Char} (unbroken : left ≠ '\n')
    {skip : Nat} {text : Text}
    (neighbours : [left, right] <:+: Text.replaceFrom (indentation unit) ['\n'] skip text) :
    [left, right] <:+: text := by
  induction text generalizing skip with
  | nil =>
    rw [Text.replaceFrom] at neighbours
    exact neighbours
  | cons c rest induction =>
    cases skip with
    | succ skip =>
      rw [Text.replaceFrom] at neighbours
      exact List.infix_cons (induction neighbours)
    | zero =>
      rw [Text.replaceFrom] at neighbours
      split at neighbours
      · rw [List.singleton_append, List.infix_cons_iff] at neighbours
        rcases neighbours with starts | later
        · exact absurd (List.cons_prefix_cons.mp starts).1 unbroken
        · exact List.infix_cons (induction later)
      · rw [List.infix_cons_iff] at neighbours ⊢
        rcases neighbours with starts | later
        · obtain ⟨rfl, more, next⟩ := List.cons_prefix_cons.mp starts
          have head : rest.head? = some right := by
            rw [← head?_replaceFrom unit rest, ← next]
            rfl
          obtain ⟨others, rfl⟩ := List.head?_eq_some_iff.mp head
          exact .inl ⟨others, rfl⟩
        · exact .inr (induction later)

end Conversion

namespace Comments

open Outcome Traced

/-! ## Where a comment ends -/

/-- A text up to the first end mark, and what follows the mark. -/
def upToMark? : Text → Option (Text × Text)
  | '*' :: '/' :: rest => some ([], rest)
  | c :: rest => (upToMark? rest).map fun found => (c :: found.1, found.2)
  | [] => none

theorem upToMark?_append {body : Text} (unended : ¬ ['*', '/'] <:+: body) (after : Text) :
    upToMark? (body ++ '*' :: '/' :: after) = some (body, after) := by
  induction body with
  | nil => rfl
  | cons c rest induction =>
    rw [List.infix_cons_iff, not_or] at unended
    have apart : ∀ more, c = '*' → rest ++ '*' :: '/' :: after = '/' :: more → False := by
      rintro more rfl continued
      -- A star at the end of the body is followed by that of the mark.
      cases rest with
      | nil => cases continued
      | cons d others =>
        obtain ⟨rfl, -⟩ := List.cons.inj continued
        exact unended.1 ⟨others, rfl⟩
    rw [List.cons_append, upToMark?, induction unended.2]
    · rfl
    · exact apart

/-- A comment with a body as it is written. -/
def framed (body : Text) : Text :=
  "\x7b/*".toList ++ body ++ "*/\x7d".toList

/-- A comment is unindented by unindenting its body. -/
theorem unindent_framed {unit : Text} (blank : unit.isBlank = true) (body : Text) :
    Conversion.unindent unit (framed body) = framed (Conversion.unindent unit body) := by
  have shape (inner : Text) :
      framed inner = ['{', '/'] ++ '*' :: (inner ++ '*' :: ['/', '}']) := by
    simp [framed]
  have front : Conversion.unindent unit ['{', '/'] = ['{', '/'] :=
    Conversion.unindent_of_not_mem (by decide) unit
  have back : Conversion.unindent unit ['/', '}'] = ['/', '}'] :=
    Conversion.unindent_of_not_mem (by decide) unit
  rw [shape, shape, Conversion.unindent_append_solid blank (by decide),
    Conversion.unindent_append_solid blank (by decide), front, back]

/--
The body of a comment: there is no end mark in it, so the comment ends where it
should, before its closing brace, and it shows a text but for white space.
-/
structure IsSealed (content body : Text) : Prop where
  unended : ¬ ['*', '/'] <:+: body
  ends : ∀ after, upToMark? (body ++ "*/\x7d".toList ++ after) = some (body, '}' :: after)
  same : Text.solids body = Text.solids content

theorem IsSealed.of_unended {content body : Text} (unended : ¬ ['*', '/'] <:+: body)
    (same : Text.solids body = Text.solids content) : IsSealed content body where
  unended := unended
  ends after := by
    rw [List.append_assoc]
    exact upToMark?_append unended _
  same := same

theorem isSealed_unmarked (content : Text) : IsSealed content (Passage.unmarked content) :=
  .of_unended (Passage.not_infix_unmarked content) (Passage.solids_unmarked content)

theorem IsSealed.unindent {unit : Text} (blank : unit.isBlank = true) {content body : Text}
    (closed : IsSealed content body) : IsSealed content (Conversion.unindent unit body) := by
  apply IsSealed.of_unended
  · intro marked
    exact closed.unended (Conversion.infix_of_infix_replaceFrom (by decide) marked)
  · rw [Conversion.solids_unindent blank, closed.same]

/-! ## Comments in a marked text -/

/-- No character belongs to a comment. -/
def Free (traced : Traced) : Prop :=
  ∀ glyph ∈ traced, glyph.origin ≠ .comment

/-- The comments in a marked text are those with the given contents, one after the other. -/
def Shows : List Text → Traced → Prop
  | [], traced => Free traced
  | content :: rest, traced =>
    ∃ before body after, traced = before ++ of .comment (framed body) ++ after ∧ Free before ∧
      IsSealed content body ∧ Shows rest after

theorem Free.append {left right : Traced} (freeLeft : Free left) (freeRight : Free right) :
    Free (left ++ right) :=
  List.forall_mem_append.mpr ⟨freeLeft, freeRight⟩

theorem Free.of_sublist {part whole : Traced} (free : Free whole) (kept : part.Sublist whole) :
    Free part := fun glyph member => free glyph (kept.subset member)

theorem free_of {origin : Origin} (other : origin ≠ .comment) (text : Text) :
    Free (of origin text) := by
  intro glyph member
  rw [origin_of_mem_of member]
  exact other

/-- A comment begins and ends with a brace. -/
theorem of_framed (body : Text) :
    of .comment (framed body) =
      ⟨'{', .comment⟩ :: of .comment (['/', '*'] ++ body ++ ['*', '/']) ++ [⟨'}', .comment⟩] := by
  simp [framed]

theorem unindent_of_framed {unit : Text} (blank : unit.isBlank = true) (body : Text) :
    Traced.unindent unit (of .comment (framed body)) =
      of .comment (framed (Conversion.unindent unit body)) := by
  have uniform : ∀ glyph ∈ Traced.unindent unit (of .comment (framed body)),
      glyph.origin = .comment := by
    intro glyph member
    exact origin_of_mem_of ((sweepFrom_sublist indentation_ne_nil _).subset member)
  rw [eq_of_uniform uniform, plain_unindent, plain_of, unindent_framed blank]

namespace Shows

variable {contents : List Text} {traced : Traced}

theorem comment {content body : Text} (closed : IsSealed content body) :
    Shows [content] (of .comment (framed body)) :=
  ⟨[], body, [], by simp, nofun, closed, nofun⟩

theorem append_left {front : Traced} (free : Free front) (shown : Shows contents traced) :
    Shows contents (front ++ traced) := by
  cases contents with
  | nil => exact free.append shown
  | cons content rest =>
    obtain ⟨before, body, after, rfl, freeBefore, closed, others⟩ := shown
    exact ⟨front ++ before, body, after, by simp, free.append freeBefore, closed, others⟩

theorem append {others : List Text} {back : Traced} (shown : Shows contents traced)
    (later : Shows others back) : Shows (contents ++ others) (traced ++ back) := by
  induction contents generalizing traced with
  | nil => exact later.append_left shown
  | cons content rest induction =>
    obtain ⟨before, body, after, rfl, free, closed, shown⟩ := shown
    exact ⟨before, body, after ++ back, by simp, free, closed, induction shown⟩

theorem append_right {back : Traced} (shown : Shows contents traced) (free : Free back) :
    Shows contents (traced ++ back) := by
  have none : Shows [] back := free
  have appended := shown.append none
  rwa [List.append_nil] at appended

/-- Blanks at the end of a text belong to no comment. -/
theorem of_append_blanks {blanks : Traced} (blank : ∀ glyph ∈ blanks, isBlankGlyph glyph = true)
    (shown : Shows contents (traced ++ blanks)) : Shows contents traced := by
  induction contents generalizing traced with
  | nil => exact Free.of_sublist shown (List.sublist_append_left _ _)
  | cons content rest induction =>
    obtain ⟨before, body, after, split, free, closed, others⟩ := shown
    rw [of_framed, ← List.append_assoc, List.append_assoc _ [_], List.singleton_append] at split
    obtain ⟨kept, rfl, rfl⟩ := append_blanks_eq_append_solid blank (by decide) split
    exact ⟨before, body, kept, by simp [of_framed], free, closed, induction others⟩

theorem of_blanks_append {blanks : Traced} (blank : ∀ glyph ∈ blanks, isBlankGlyph glyph = true)
    (shown : Shows contents (blanks ++ traced)) : Shows contents traced := by
  cases contents with
  | nil => exact Free.of_sublist shown (List.sublist_append_right _ _)
  | cons content rest =>
    obtain ⟨before, body, after, split, free, closed, others⟩ := shown
    rw [of_framed, List.append_assoc, List.cons_append, List.cons_append] at split
    obtain ⟨kept, rfl, rfl⟩ := blanks_append_eq_append_solid blank (by decide) split
    have freeKept := Free.of_sublist free (List.sublist_append_right _ _)
    exact ⟨kept, body, after, by simp [of_framed], freeKept, closed, others⟩

theorem trimSuffix {unit : Text} (blank : unit.isBlank = true) (shown : Shows contents traced) :
    Shows contents (traced.trimSuffix unit) := by
  obtain ⟨removed, blanks, whole⟩ := exists_eq_trimSuffix_append traced blank
  rw [whole] at shown
  exact shown.of_append_blanks blanks

theorem trim (shown : Shows contents traced) : Shows contents (Traced.trim traced) := by
  obtain ⟨before, after, blankBefore, blankAfter, whole⟩ := exists_eq_append_trim traced
  rw [whole] at shown
  exact (shown.of_append_blanks blankAfter).of_blanks_append blankBefore

theorem unindent {unit : Text} (blank : unit.isBlank = true) (shown : Shows contents traced) :
    Shows contents (Traced.unindent unit traced) := by
  induction contents generalizing traced with
  | nil => exact Free.of_sublist shown (sweepFrom_sublist indentation_ne_nil _)
  | cons content rest induction =>
    obtain ⟨before, body, after, rfl, free, closed, others⟩ := shown
    refine ⟨Traced.unindent unit before, Conversion.unindent unit body,
      Traced.unindent unit after, ?_, ?_, closed.unindent blank, induction others⟩
    · have first : ∀ glyph ∈ (of .comment (framed body)).head?, isBlankGlyph glyph = false := by
        rw [of_framed]
        rintro glyph ⟨⟩
        decide
      have last : ∀ glyph ∈ (before ++ of .comment (framed body)).getLast?,
          isBlankGlyph glyph = false := by
        rw [of_framed, ← List.append_assoc, List.getLast?_concat]
        rintro glyph ⟨⟩
        decide
      rw [unindent_append_of_last blank after last, unindent_append_of_head blank before first,
        unindent_of_framed blank]
    · exact Free.of_sublist free (sweepFrom_sublist indentation_ne_nil _)

theorem finish {unit : Text} (blank : unit.isBlank = true) (shown : Shows contents traced) :
    Shows contents (Traced.finish unit traced) := by
  apply Shows.unindent blank
  apply shown.trim.append_right
  exact @free_of .ending (by decide) ['\n']

/-- Each comment stands in the text. -/
theorem exists_of_mem {content : Text} (shown : Shows contents traced)
    (member : content ∈ contents) :
    ∃ before body after, plain traced = before ++ framed body ++ after ∧
      IsSealed content body := by
  induction contents generalizing traced with
  | nil => cases member
  | cons first rest induction =>
    obtain ⟨before, body, after, rfl, -, closed, others⟩ := shown
    rcases List.mem_cons.mp member with rfl | later
    · exact ⟨plain before, body, plain after, by simp, closed⟩
    · obtain ⟨inner, found, back, split, closed⟩ := induction others later
      exact ⟨plain before ++ framed body ++ inner, found, back, by simp [split], closed⟩

end Shows

/-! ## Comments in a rendering -/

/-- The content of a comment. -/
def commentContent? : Node → Option Text
  | .comment content => some content
  | _ => none

/-- The contents of the comments in an outline. -/
def commentsOf (outline : List (Option Text × Node)) : List Text :=
  outline.filterMap fun entry => commentContent? entry.2

/-- The contents of the comments below a container, in document order. -/
def comments (container : Node) : List Text :=
  commentsOf (Node.outlineAll container.tag? container.children)

theorem commentsOf_append (left right : List (Option Text × Node)) :
    commentsOf (left ++ right) = commentsOf left ++ commentsOf right :=
  List.filterMap_append

theorem commentsOf_element (parent : Option Text) (tag : Text) (attributes : Attributes)
    (children : List Node) :
    commentsOf ((Node.element tag attributes children).outline parent) =
      commentsOf (Node.outlineAll (some tag) children) := by
  rw [Node.outline]
  rfl

theorem free_startTag {tag : Text} {attributes : Attributes} {children : List Node}
    {start : Traced} (started : Provenance.startTag tag attributes children = .ok start) :
    Free start := by
  intro glyph member
  rcases Provenance.isMarkup_of_mem_startTag started member with named | valued
  · rw [named]
    nofun
  · rw [valued]
    nofun

theorem free_text {unit : Text} {level : Int} {opened : Nat} {parent : Option Text}
    {inPre : Bool} {content : Text} {written : Traced}
    (rendered : Provenance.text unit level opened parent inPre content = .ok written) :
    Free written := by
  intro glyph member
  rcases Provenance.origin_of_mem_text rendered member with text | layout
  · rw [text]
    nofun
  · rw [layout]
    nofun

mutual

/-- The rendering of a node shows the comments in it. -/
theorem shows_node {unit : Text} (blank : unit.isBlank = true) {level : Int} {opened : Nat}
    {parent : Option Text} {inPre : Bool} : (drawn : Node) → {written : Traced} →
      Provenance.node unit level opened parent inPre drawn = .ok written →
      Shows (commentsOf (drawn.outline parent)) written
  | .element tag attributes children, _, rendered => by
    obtain ⟨start, inside, started, filled, rfl⟩ := Provenance.node_element_eq_ok rendered
    rw [commentsOf_element]
    have within := (shows_nodes blank children filled).append_left (free_startTag started)
    exact (within.trimSuffix blank).append_right (free_of (by decide) _)
  | .text content, _, rendered => by
    rw [Provenance.node] at rendered
    exact free_text rendered
  | .comment content, _, rendered => by
    rw [Provenance.node] at rendered
    cases rendered
    exact .comment (isSealed_unmarked content)
  | .special _ _, _, rendered => by
    rw [Provenance.node] at rendered
    cases rendered
    exact List.forall_mem_nil _

theorem shows_nodes {unit : Text} (blank : unit.isBlank = true) {level : Int} {opened : Nat}
    {parent : Option Text} {inPre : Bool} : (drawn : List Node) → {written : Traced} →
      Provenance.nodes unit level opened parent inPre drawn = .ok written →
      Shows (commentsOf (Node.outlineAll parent drawn)) written
  | [], _, rendered => by
    rw [Provenance.nodes] at rendered
    cases rendered
    exact List.forall_mem_nil _
  | first :: rest, _, rendered => by
    obtain ⟨before, after, begun, ended, rfl⟩ := Provenance.nodes_cons_eq_ok rendered
    rw [Node.outlineAll, commentsOf_append]
    exact (shows_node blank first begun).append (shows_nodes blank rest ended)

end

/-- The rendering of a container shows the comments below it, whether it is drawn or not. -/
theorem shows_whole {unit : Text} (blank : unit.isBlank = true) {container : Node}
    {drawn : Traced} (rendered : Provenance.whole unit container = .ok drawn) :
    Shows (comments container) drawn := by
  rw [Provenance.whole] at rendered
  split at rendered
  · exact shows_nodes blank container.children rendered
  · next several =>
    obtain ⟨written, found, rfl⟩ := map_eq_ok_iff.mp rendered
    cases container with
    | element tag attributes children =>
      have within := shows_node blank _ found
      rw [commentsOf_element] at within
      exact within.append_left (free_of (by decide) _)
    | _ => exact absurd rfl several

/-! ## Comments in an output -/

/--
However the markup is read, the comments of the tree stand in the output in
document order.  Each is written with a body that has the solid characters of
its content, and read from its start it ends with its own end mark, before its
closing brace.
-/
theorem output_seals_comments (options : Options) {read : Text → Except Problem Node}
    {html : Text} {canvas : Canvas}
    (converted : Conversion.convertWith read options html = .ok canvas) :
    ∃ container drawn, read (Conversion.markup html) = .ok container ∧
      Provenance.whole options.indent container = .ok drawn ∧
      canvas.output = plain (finish options.indent drawn) ∧
      Shows (comments container) (finish options.indent drawn) ∧
      ∀ content ∈ comments container, ∃ before body after,
        canvas.output = before ++ framed body ++ after ∧ IsSealed content body := by
  obtain ⟨container, parsed, rendered⟩ := Rendering.convertWith_eq_ok converted
  obtain ⟨drawn, found, output⟩ := Provenance.output_of_render options.indent_blank rendered
  have shown := (shows_whole options.indent_blank found).finish options.indent_blank
  refine ⟨container, drawn, parsed, found, output, shown, ?_⟩
  intro content member
  rw [output]
  exact shown.exists_of_mem member

/-- A comment with an end mark, one that a line break divides, and a star at its end. -/
def starred : Text := "<p><!--/*/ *\n      /b*--></p>".toList

theorem output_seals_starred :
    ∃ canvas before body after, Conversion.convert {} starred = .ok canvas ∧
      canvas.output = before ++ framed body ++ after ∧
      upToMark? (body ++ "*/\x7d".toList ++ after) = some (body, '}' :: after) ∧
      Text.solids body = "/*/*/b*".toList := by
  have listed : ((Fragment.read .builtIn (Conversion.markup starred)).toOption.map comments) =
      some ["/*/ *\n      /b*".toList] := by
    decide +kernel
  have succeeds : (Conversion.convert {} starred).toOption.isSome = true := by
    decide +kernel
  cases converted : Conversion.convert {} starred with
  | error interruption =>
    rw [converted] at succeeds
    cases succeeds
  | ok canvas =>
    obtain ⟨container, drawn, parsed, -, -, -, each⟩ := output_seals_comments {} converted
    rw [parsed] at listed
    have only : comments container = ["/*/ *\n      /b*".toList] := Option.some.inj listed
    obtain ⟨before, body, after, output, closed⟩ := each _ (only ▸ List.mem_singleton_self _)
    exact ⟨canvas, before, body, after, rfl, output, closed.ends after, closed.same⟩

end Comments

end HtmlJsx
