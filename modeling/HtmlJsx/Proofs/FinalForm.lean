import HtmlJsx.Proofs.Protection

/-!
# What the final form of an output leaves alone

Trimming and unindenting are meant for the layout of running text, but they
work on the flat output and cannot tell it from white space in a tag or a
comment.  A rendering has no protected blank at a border, whether the values
and comments are protected or all of the markup: values stand between quotes,
comments between braces and elements between brackets, and text and layout are
not protected.  So the final form leaves markup alone exactly as far as the
indentation does not occur in it.
-/

namespace HtmlJsx

namespace FinalForm

open Outcome Traced

namespace Protection

variable {protection : Protection}

/-! ## Renderings are fenced -/

theorem fenced_of {origin : Origin} (bare : protection.covers origin = false) (text : Text) :
    protection.Fenced (of origin text) := by
  apply Fenced.of_unprotected
  intro glyph member
  rw [keeps, origin_of_mem_of member]
  exact bare

/-- A part of one origin between solid characters is fenced. -/
theorem fenced_of_between {first last : Char} (solidFirst : isBlank first = false)
    (solidLast : isBlank last = false) (origin : Origin) (inner : Text) :
    protection.Fenced (of origin (first :: inner ++ [last])) := by
  have uniform : ∀ glyph ∈ of origin (first :: inner ++ [last]),
      protection.keeps glyph = protection.covers origin := by
    intro glyph member
    rw [keeps, origin_of_mem_of member]
  apply Fenced.of_solid_ends uniform
  · intro glyph edge
    cases edge
    exact solidFirst
  · intro glyph edge
    rw [of_append, of_cons _ last, of_nil, List.getLast?_concat] at edge
    cases edge
    exact solidLast

theorem fenced_comment (content : Text) :
    protection.Fenced (of .comment (Passage.comment content)) := by
  have shape : Passage.comment content =
      '{' :: ("/*".toList ++ Text.replace ['*', '/'] ['*', ' ', '/'] content ++ "*/".toList) ++
        ['}'] := by
    simp [Passage.comment]
  rw [shape]
  exact fenced_of_between (by decide) (by decide) .comment _

/-- A value part is between double quotes, or it is not marked as a value. -/
theorem valuePart_cases {name value part : Text} (found : Property.valuePart name value = .ok part) :
    (∃ body, Provenance.valuePart part = ⟨'=', .startTag⟩ :: of .value ('"' :: body ++ ['"'])) ∨
      Provenance.valuePart part = of .startTag part := by
  rw [Property.valuePart, bind_eq_ok_iff] at found
  obtain ⟨integer, -, found⟩ := found
  split at found
  · obtain rfl := Except.ok.inj found
    exact .inr rfl
  · split at found
    · obtain rfl := Except.ok.inj found
      exact .inl ⟨_, rfl⟩
    · split at found
      · obtain rfl := Except.ok.inj found
        exact .inl ⟨[], rfl⟩
      · obtain rfl := Except.ok.inj found
        exact .inr rfl

section Unmarked

/-! Where tags are not protected, only the values in them have to be looked at. -/

variable (bare : protection.covers .startTag = false)
include bare

theorem fenced_property {element name value : Text} {written : Traced}
    (found : Provenance.property element name value = .ok written) :
    protection.Fenced written := by
  rw [Provenance.property] at found
  split at found
  · obtain ⟨object, -, rfl⟩ := map_eq_ok_iff.mp found
    exact fenced_of bare object
  · obtain ⟨part, valued, rfl⟩ := map_eq_ok_iff.mp found
    apply (fenced_of bare _).append
    rcases valuePart_cases valued with ⟨body, shape⟩ | shape
    · rw [shape]
      exact (fenced_of bare ['=']).append (fenced_of_between (by decide) (by decide) .value body)
    · rw [shape]
      exact fenced_of bare part

theorem fenced_ofAttributes {element : Text} {attributes : Attributes} {written : List Traced}
    (found : Provenance.ofAttributes element attributes = .ok written) :
    ∀ given ∈ written, protection.Fenced given := by
  induction attributes generalizing written with
  | nil =>
    cases found
    simp
  | cons head rest induction =>
    obtain ⟨name, value⟩ := head
    rw [Provenance.ofAttributes, bind_eq_ok_iff] at found
    obtain ⟨first, begun, found⟩ := found
    obtain ⟨others, remaining, joined⟩ := bind_eq_ok_iff.mp found
    obtain rfl := Except.ok.inj joined
    rw [List.forall_mem_cons]
    exact ⟨fenced_property bare begun, induction remaining⟩

theorem fenced_flatMap {written : List Traced} (fenced : ∀ given ∈ written, protection.Fenced given) :
    protection.Fenced (written.flatMap (⟨' ', .startTag⟩ :: ·)) := by
  induction written with
  | nil => exact Fenced.nil
  | cons given rest induction =>
    rw [List.forall_mem_cons] at fenced
    rw [List.flatMap_cons, ← List.singleton_append]
    exact ((fenced_of bare [' ']).append fenced.1).append (induction fenced.2)

theorem fenced_startTag_of_bare {tag : Text} {attributes : Attributes} {children : List Node}
    {start : Traced} (started : Provenance.startTag tag attributes children = .ok start) :
    protection.Fenced start := by
  obtain ⟨given, found, rfl⟩ := Provenance.startTag_eq_ok started
  apply Fenced.append
  · apply (fenced_of bare _).append
    apply fenced_flatMap bare
    rw [List.forall_mem_append]
    refine ⟨fenced_ofAttributes bare found, ?_⟩
    intro contents member
    obtain ⟨text, -, rfl⟩ := List.mem_map.mp member
    exact fenced_of bare text
  · split
    · exact Fenced.nil
    · exact fenced_of bare ['>']

end Unmarked

theorem keeps_startTag (covered : protection.covers .startTag = true) {tag : Text}
    {attributes : Attributes} {children : List Node} {start : Traced}
    (started : Provenance.startTag tag attributes children = .ok start) :
    ∀ glyph ∈ start, protection.keeps glyph = true := by
  intro glyph member
  rw [keeps]
  rcases Provenance.isMarkup_of_mem_startTag started member with named | valued
  · rw [named]
    exact covered
  · rw [valued]
    exact (protection.covers_within covered).1

/-- The start tag of an element that does not close itself is fenced. -/
theorem fenced_startTag {tag : Text} {attributes : Attributes} {children : List Node}
    {start : Traced} (paired : Canvas.isSelfClosing tag children = false)
    (started : Provenance.startTag tag attributes children = .ok start) :
    protection.Fenced start := by
  cases covered : protection.covers .startTag with
  | false => exact fenced_startTag_of_bare covered started
  | true =>
    apply Fenced.of_solid_ends (keeps_startTag covered started)
    · intro glyph edge
      obtain ⟨more, rfl⟩ := Provenance.startTag_eq_cons started
      cases edge
      decide
    · intro glyph edge
      obtain ⟨given, -, rfl⟩ := Provenance.startTag_eq_ok started
      rw [paired, if_neg Bool.false_ne_true, List.getLast?_concat] at edge
      cases edge
      decide

theorem fenced_text {unit : Text} {level : Int} {opened : Nat} {parent : Option Text}
    {inPre : Bool} {content : Text} {written : Traced}
    (rendered : Provenance.text unit level opened parent inPre content = .ok written) :
    protection.Fenced written := by
  apply Fenced.of_unprotected
  intro glyph member
  rw [keeps]
  rcases Provenance.origin_of_mem_text rendered member with text | layout
  · rw [text]
    exact protection.covers_text
  · rw [layout]
    exact protection.covers_layout _

/-- Closing an element that closes itself takes nothing off but the end of its start tag. -/
theorem trimSuffix_selfClosing {unit : Text} (blank : unit.isBlank = true)
    (covered : protection.covers .startTag = true) {tag : Text} {attributes : Attributes}
    {children : List Node} {start inside : Traced}
    (started : Provenance.startTag tag attributes children = .ok start)
    (last : ∀ glyph ∈ inside.getLast?, isBlankGlyph glyph = false) :
    ∃ more, (∀ glyph ∈ (⟨'<', .startTag⟩ :: more : Traced), protection.keeps glyph = true) ∧
      Traced.trimSuffix (start ++ inside) unit = ⟨'<', .startTag⟩ :: more ++ inside := by
  have kept := keeps_startTag covered started
  obtain ⟨more, rfl⟩ := Provenance.startTag_eq_cons started
  have bracket : isBlankGlyph ⟨'<', .startTag⟩ = false := by decide
  by_cases empty : inside = []
  · obtain ⟨fewer, trimmed⟩ := trimSuffix_cons bracket more blank
    obtain ⟨removed, -, whole⟩ := exists_eq_trimSuffix_append (⟨'<', .startTag⟩ :: more) blank
    rw [whole, trimmed, List.forall_mem_append] at kept
    exact ⟨fewer, kept.1, by rw [empty, List.append_nil, List.append_nil, trimmed]⟩
  · refine ⟨more, kept, trimSuffix_of_last blank ?_⟩
    rw [List.getLast?_append_of_ne_nil _ empty]
    exact last

/-- Protected together with its tag, an element that closes itself is fenced if its contents are. -/
theorem fenced_selfClosing {unit : Text} (blank : unit.isBlank = true) {level : Int} {opened : Nat}
    {inPre : Bool} {tag : Text} {attributes : Attributes} {children : List Node}
    {start inside : Traced} (covered : protection.covers .startTag = true)
    (closing : Canvas.isSelfClosing tag children = true)
    (started : Provenance.startTag tag attributes children = .ok start)
    (filled : Provenance.nodes unit level opened (some tag) inPre children = .ok inside)
    (fenced : protection.Fenced inside) :
    protection.Fenced (trimSuffix (start ++ inside) unit ++ of .endTag [' ', '/', '>']) := by
  obtain ⟨head, last⟩ := Provenance.ends_of_selfClosing blank closing filled
  have remark := (protection.covers_within covered).2
  have keepsHead : ∀ glyph ∈ inside.head?, protection.keeps glyph = true := by
    intro glyph edge
    rcases head glyph edge with rfl | rfl
    · exact covered
    · exact remark
  have keepsLast : ∀ glyph ∈ inside.getLast?, protection.keeps glyph = true := by
    intro glyph edge
    rcases last glyph edge with rfl | rfl
    · exact protection.covers_endTag.trans covered
    · exact remark
  have solid : ∀ glyph ∈ inside.getLast?, isBlankGlyph glyph = false := by
    intro glyph edge
    rcases last glyph edge with rfl | rfl
    · decide
    · decide
  obtain ⟨front, keepsFront, shape⟩ := trimSuffix_selfClosing blank covered started solid
  rw [shape]
  apply Fenced.within keepsFront _ _ _ _ fenced keepsHead keepsLast
  · intro glyph member
    rw [keeps, origin_of_mem_of member, protection.covers_endTag, covered]
  · decide
  · intro glyph edge
    cases edge
    decide
  · intro glyph edge
    cases edge
    decide

/-- An element is fenced if its contents are. -/
theorem fenced_element {unit : Text} (blank : unit.isBlank = true) {level : Int} {opened : Nat}
    {inPre : Bool} {tag : Text} {attributes : Attributes} {children : List Node}
    {start inside : Traced} (started : Provenance.startTag tag attributes children = .ok start)
    (filled : Provenance.nodes unit level opened (some tag) inPre children = .ok inside)
    (fenced : protection.Fenced inside) :
    protection.Fenced
      (trimSuffix (start ++ inside) unit ++ of .endTag (Rendering.endTag tag children)) := by
  have ending (inner : Text) : protection.Fenced (of .endTag ('<' :: inner ++ ['>'])) :=
    fenced_of_between (by decide) (by decide) .endTag inner
  cases closing : Canvas.isSelfClosing tag children with
  | false =>
    rw [Rendering.endTag, closing, if_neg Bool.false_ne_true]
    exact (((fenced_startTag closing started).append fenced).trimSuffix blank).append (ending _)
  | true =>
    rw [Rendering.endTag, closing, if_pos rfl]
    cases covered : protection.covers .startTag with
    | false =>
      apply (((fenced_startTag_of_bare covered started).append fenced).trimSuffix blank).append
      apply fenced_of
      rw [protection.covers_endTag, covered]
    | true => exact fenced_selfClosing blank covered closing started filled fenced

mutual

/-- No protected blank of a rendered node stands at a border. -/
theorem fenced_node {unit : Text} (blank : unit.isBlank = true) {level : Int} {opened : Nat}
    {parent : Option Text} {inPre : Bool} : (drawn : Node) → {written : Traced} →
      Provenance.node unit level opened parent inPre drawn = .ok written →
      protection.Fenced written
  | .element tag attributes children, _, rendered => by
    obtain ⟨start, inside, started, filled, rfl⟩ := Provenance.node_element_eq_ok rendered
    exact fenced_element blank started filled (fenced_nodes blank children filled)
  | .text content, _, rendered => by
    rw [Provenance.node] at rendered
    exact fenced_text rendered
  | .comment content, _, rendered => by
    rw [Provenance.node] at rendered
    cases rendered
    exact fenced_comment content
  | .special _ _, _, rendered => by
    rw [Provenance.node] at rendered
    cases rendered
    exact Fenced.nil

theorem fenced_nodes {unit : Text} (blank : unit.isBlank = true) {level : Int} {opened : Nat}
    {parent : Option Text} {inPre : Bool} : (drawn : List Node) → {written : Traced} →
      Provenance.nodes unit level opened parent inPre drawn = .ok written →
      protection.Fenced written
  | [], _, rendered => by
    rw [Provenance.nodes] at rendered
    cases rendered
    exact Fenced.nil
  | first :: rest, _, rendered => by
    obtain ⟨before, after, begun, ended, rfl⟩ := Provenance.nodes_cons_eq_ok rendered
    exact (fenced_node blank first begun).append (fenced_nodes blank rest ended)

end

theorem fenced_whole {unit : Text} (blank : unit.isBlank = true) {container : Node}
    {drawn : Traced} (rendered : Provenance.whole unit container = .ok drawn) :
    protection.Fenced drawn := by
  rw [Provenance.whole] at rendered
  split at rendered
  · exact fenced_nodes blank _ rendered
  · obtain ⟨written, found, rfl⟩ := map_eq_ok_iff.mp rendered
    exact (fenced_of (protection.covers_layout 0) _).append (fenced_node blank _ found)

end Protection

/--
However the markup is read, the final form of an output only takes white space
away and adds a line break at the end.  A value between quotes or a comment, or several comments in a row,
is treated on its own: it is unindented, and so it stays as it is exactly if the
indentation does not occur in it.  No white space is taken but that of text and
of its layout exactly if the indentation does not occur in the markup.
-/
theorem finish_spares_iff (options : Options) {read : Text → Except Problem Node}
    {html : Text} {canvas : Canvas}
    (converted : Conversion.convertWith read options html = .ok canvas) :
    ∃ container drawn, read (Conversion.markup html) = .ok container ∧
      Provenance.whole options.indent container = .ok drawn ∧
      canvas.output = plain (finish options.indent drawn) ∧
      (finish options.indent drawn).Sublist (drawn ++ [⟨'\n', .ending⟩]) ∧
      (∀ front stretch back, drawn = front ++ stretch ++ back →
        Protection.quotations.IsRun front stretch back →
        (∃ left right,
          finish options.indent drawn = left ++ unindent options.indent stretch ++ right ∧
          left.Sublist front ∧ right.Sublist (back ++ [⟨'\n', .ending⟩])) ∧
        (unindent options.indent stretch = stretch ↔
          ¬ Conversion.indentation options.indent <:+: plain stretch)) ∧
      ((finish options.indent drawn).filter Protection.markup.keeps =
          drawn.filter Protection.markup.keeps ↔
        Protection.markup.Avoids (Conversion.indentation options.indent) drawn) := by
  obtain ⟨container, parsed, rendered⟩ := Rendering.convertWith_eq_ok converted
  obtain ⟨drawn, found, output⟩ := Provenance.output_of_render options.indent_blank rendered
  refine ⟨container, drawn, parsed, found, output, finish_sublist .., ?_, ?_⟩
  · rintro front stretch back rfl run
    constructor
    · exact run.finish_eq options.indent_blank (Protection.fenced_whole options.indent_blank found)
    · exact run.unindent_eq_self_iff options.indent_nonempty options.indent_blank
  · exact Protection.filter_finish_eq_iff options.indent_nonempty options.indent_blank
      (Protection.fenced_whole options.indent_blank found)

/-- What is written for a field with a broken value: before the value, the value, and after it. -/
def brokenField : Traced × Traced × Traced :=
  (of (.layout 0) "\n      ".toList ++ of .startTag "<input defaultValue=".toList,
    of .value "\"a\n  b\"".toList,
    of .endTag " />".toList ++ of (.layout 0) "\n      ".toList)

theorem finish_spares_broken_field :
    ∃ canvas left right,
      Conversion.convert {} "<input value=\"a\n  b\">".toList = .ok canvas ∧
      canvas.output = plain (left ++ brokenField.2.1 ++ right) := by
  have shown : (Fragment.read .builtIn
      (Conversion.markup "<input value=\"a\n  b\">".toList)).toOption.bind
        (fun container => (Provenance.whole "  ".toList container).toOption) =
      some (brokenField.1 ++ brokenField.2.1 ++ brokenField.2.2) := by
    decide +kernel
  have succeeds : (Conversion.convert {}
      "<input value=\"a\n  b\">".toList).toOption.isSome = true := by
    decide +kernel
  have run : Protection.quotations.IsRun brokenField.1 brokenField.2.1 brokenField.2.2 := by
    constructor
    · exact List.cons_ne_nil _ _
    · intro glyph member
      rw [Protection.keeps, origin_of_mem_of member]
      rfl
    · intro glyph edge
      cases edge
      rfl
    · intro glyph edge
      cases edge
      rfl
  have short : ¬ Conversion.indentation "  ".toList <:+: plain brokenField.2.1 := by
    decide +kernel
  cases converted : Conversion.convert {} "<input value=\"a\n  b\">".toList with
  | error interruption =>
    rw [converted] at succeeds
    cases succeeds
  | ok canvas =>
    obtain ⟨container, drawn, parsed, found, output, -, spares, -⟩ := finish_spares_iff {} converted
    have read : Fragment.read .builtIn
        (Conversion.markup "<input value=\"a\n  b\">".toList) = .ok container := parsed
    have whole : Provenance.whole "  ".toList container = .ok drawn := found
    rw [read, Except.toOption, Option.bind_some, whole] at shown
    obtain ⟨⟨left, right, final, -, -⟩, same⟩ := spares _ _ _ (Option.some.inj shown) run
    rw [same.mpr short] at final
    exact ⟨canvas, left, right, rfl, by rw [output, final]⟩

/-- The indentation is taken out of a value and out of a comment. -/
theorem indentation_taken_from_quotations :
    (Conversion.convert {} "<input value=\"a\n      b\">".toList).toOption.map Canvas.output =
        some "<input defaultValue=\"a\nb\" />\n".toList ∧
      (Conversion.convert {} "<p>x<!--a\n      b--></p>".toList).toOption.map Canvas.output =
        some "<p>x\x7b/*a\nb*/\x7d</p>\n".toList := by
  constructor
  · decide +kernel
  · decide +kernel

end FinalForm

end HtmlJsx
