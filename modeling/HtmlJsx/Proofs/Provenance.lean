import HtmlJsx.Proofs.Rendering

/-!
# Where the characters of an output come from

A rendering is a flat text, and three operations on it take white space away
without knowing what it was written for.  To say whether they take the right
white space, this module gives the rendering once more with every character
marked by its origin: the layout of running text, text itself, a start tag, a
quoted value, a comment, or the end of an element.

The three operations are repeated on marked characters.  Without the marks the
marked rendering is the rendering, and its final form is the output of the
conversion; so what is shown of the marked form is a fact about the output.
-/

namespace HtmlJsx

/-- What a character of an output was written for. -/
inductive Origin where
  /--
  The layout of running text: a line break with its indentation, where so many
  elements are open.  The indentation before the container counts as layout too.
  -/
  | layout (opened : Nat)
  | text
  | startTag
  /-- A value between double quotes, the quotes included. -/
  | value
  | comment
  | endTag
  /-- The line break at the end of the output. -/
  | ending
  deriving Repr, DecidableEq

namespace Origin

/-- Whether a character belongs to the layout of running text. -/
def isLayout : Origin → Bool
  | .layout _ => true
  | _ => false

end Origin

/-- A character with its origin. -/
structure Glyph where
  char : Char
  origin : Origin
  deriving Repr, DecidableEq

/-- A text whose characters know where they come from. -/
abbrev Traced := List Glyph

namespace Traced

/-- The characters alone. -/
def plain (traced : Traced) : Text :=
  traced.map Glyph.char

/-- A text all of one origin. -/
def of (origin : Origin) (text : Text) : Traced :=
  text.map (⟨·, origin⟩)

@[simp]
theorem plain_nil : plain [] = [] := rfl

@[simp]
theorem plain_cons (glyph : Glyph) (rest : Traced) :
    plain (glyph :: rest) = glyph.char :: plain rest := rfl

@[simp]
theorem plain_append (left right : Traced) : plain (left ++ right) = plain left ++ plain right :=
  List.map_append

@[simp]
theorem plain_of (origin : Origin) (text : Text) : plain (of origin text) = text := by
  rw [plain, of, List.map_map]
  exact List.map_id'' (fun _ => rfl) text

@[simp]
theorem length_plain (traced : Traced) : (plain traced).length = traced.length :=
  List.length_map ..

theorem plain_take (count : Nat) (traced : Traced) :
    plain (traced.take count) = (plain traced).take count :=
  List.map_take

theorem plain_drop (count : Nat) (traced : Traced) :
    plain (traced.drop count) = (plain traced).drop count :=
  List.map_drop

@[simp]
theorem of_nil (origin : Origin) : of origin [] = [] := rfl

@[simp]
theorem of_cons (origin : Origin) (c : Char) (rest : Text) :
    of origin (c :: rest) = ⟨c, origin⟩ :: of origin rest := rfl

@[simp]
theorem of_append (origin : Origin) (left right : Text) :
    of origin (left ++ right) = of origin left ++ of origin right :=
  List.map_append

theorem origin_of_mem_of {origin : Origin} {text : Text} {glyph : Glyph}
    (member : glyph ∈ of origin text) : glyph.origin = origin := by
  obtain ⟨c, -, rfl⟩ := List.mem_map.mp member
  rfl

/-! ## Taking white space away -/

/-- Take one unit off the end, if it stands there. -/
def trimSuffix (traced : Traced) (unit : Text) : Traced :=
  if Text.endsWith traced.plain unit then traced.take (traced.length - unit.length) else traced

@[simp]
theorem plain_trimSuffix (traced : Traced) (unit : Text) :
    plain (trimSuffix traced unit) = Text.trimSuffix (plain traced) unit := by
  rw [trimSuffix, Text.trimSuffix]
  split
  · rw [plain_take, length_plain]
  · rfl

/-- A marked unit that stands at the end is taken off. -/
theorem trimSuffix_append_of {unit : Text} (nonempty : unit ≠ []) (front : Traced)
    (origin : Origin) : trimSuffix (front ++ of origin unit) unit = front := by
  have ends : Text.endsWith (plain (front ++ of origin unit)) unit = true := by
    rw [plain_append, plain_of]
    exact Text.endsWith_iff.mpr ⟨nonempty, List.suffix_append ..⟩
  have size : (front ++ of origin unit).length - unit.length = front.length := by
    simp [of]
  rw [trimSuffix, if_pos ends, size, List.take_left]

/-- Whether a glyph is white space. -/
def isBlankGlyph (glyph : Glyph) : Bool :=
  isBlank glyph.char

/-- Taking off a blank unit takes off blanks, perhaps none. -/
theorem exists_eq_trimSuffix_append (traced : Traced) {unit : Text}
    (blank : unit.isBlank = true) :
    ∃ removed : Traced, (∀ glyph ∈ removed, isBlankGlyph glyph = true) ∧
      traced = traced.trimSuffix unit ++ removed := by
  rw [trimSuffix]
  split
  · next ends =>
    obtain ⟨-, suffix⟩ := Text.endsWith_iff.mp ends
    refine ⟨traced.drop (traced.length - unit.length), ?_, (List.take_append_drop ..).symm⟩
    have shown : plain (traced.drop (traced.length - unit.length)) = unit := by
      rw [plain_drop, ← length_plain]
      exact (List.suffix_iff_eq_drop.mp suffix).symm
    intro glyph member
    apply List.all_eq_true.mp blank
    rw [← shown]
    exact List.mem_map_of_mem member
  · exact ⟨[], by simp, (List.append_nil _).symm⟩

/-- A solid character at the beginning is not taken off. -/
theorem trimSuffix_cons {solid : Glyph} (visible : isBlankGlyph solid = false) (rest : Traced)
    {unit : Text} (blank : unit.isBlank = true) :
    ∃ kept, trimSuffix (solid :: rest) unit = solid :: kept := by
  obtain ⟨removed, blanks, whole⟩ := exists_eq_trimSuffix_append (solid :: rest) blank
  cases trimmed : trimSuffix (solid :: rest) unit with
  | nil =>
    rw [trimmed, List.nil_append] at whole
    have wrong := blanks solid (by simp [← whole])
    rw [visible] at wrong
    cases wrong
  | cons first kept =>
    rw [trimmed] at whole
    exact ⟨kept, by rw [(List.cons.inj whole).1]⟩

/-- Nothing is taken off a part that ends with a solid character. -/
theorem trimSuffix_of_last {traced : Traced} {unit : Text} (blank : unit.isBlank = true)
    (last : ∀ glyph ∈ traced.getLast?, isBlankGlyph glyph = false) :
    trimSuffix traced unit = traced := by
  obtain ⟨removed, blanks, whole⟩ := exists_eq_trimSuffix_append traced blank
  rcases List.eq_nil_or_concat removed with rfl | ⟨others, final, rfl⟩
  · rw [List.append_nil] at whole
    exact whole.symm
  · have visible := last final (by rw [whole]; simp)
    rw [blanks final (by simp)] at visible
    cases visible

/-- Take the white space around a text away. -/
def trim (traced : Traced) : Traced :=
  ((traced.dropWhile isBlankGlyph).reverse.dropWhile isBlankGlyph).reverse

@[simp]
theorem plain_trim (traced : Traced) : plain (trim traced) = Text.trim (plain traced) := by
  have drops (glyphs : Traced) :
      plain (glyphs.dropWhile isBlankGlyph) = (plain glyphs).dropWhile isBlank :=
    (List.dropWhile_map ..).symm
  have reverses (glyphs : Traced) : plain glyphs.reverse = (plain glyphs).reverse :=
    List.map_reverse
  rw [trim, Text.trim, Text.trimRight, Text.trimLeft, reverses, drops, reverses, drops]

/-- Keep the first character of every occurrence of a pattern, passing over `skip` characters first. -/
def sweepFrom (pattern : Text) : (skip : Nat) → Traced → Traced
  | _, [] => []
  | skip + 1, _ :: rest => sweepFrom pattern skip rest
  | 0, glyph :: rest =>
    if pattern.isPrefixOf (glyph.char :: plain rest) then
      glyph :: sweepFrom pattern (pattern.length - 1) rest
    else
      glyph :: sweepFrom pattern 0 rest

theorem plain_sweepFrom (c : Char) (more : Text) (skip : Nat) (traced : Traced) :
    plain (sweepFrom (c :: more) skip traced) =
      Text.replaceFrom (c :: more) [c] skip (plain traced) := by
  induction traced generalizing skip with
  | nil => cases skip <;> rfl
  | cons glyph rest induction =>
    cases skip with
    | succ skip =>
      rw [sweepFrom, plain_cons, Text.replaceFrom]
      exact induction skip
    | zero =>
      rw [sweepFrom, plain_cons, Text.replaceFrom]
      split
      · next starts =>
        have same : c = glyph.char :=
          (List.cons_prefix_cons.mp (List.isPrefixOf_iff_prefix.mp starts)).1
        rw [plain_cons, induction, same, List.singleton_append]
      · rw [plain_cons, induction]

/-- Take the indentation of the place where the fragment was drawn away. -/
def unindent (unit : Text) (traced : Traced) : Traced :=
  sweepFrom (Conversion.indentation unit) 0 traced

@[simp]
theorem plain_unindent (unit : Text) (traced : Traced) :
    plain (unindent unit traced) = Conversion.unindent unit (plain traced) :=
  plain_sweepFrom '\n' _ 0 traced

/-- The final form of an output. -/
def finish (unit : Text) (traced : Traced) : Traced :=
  unindent unit (trim traced ++ [⟨'\n', .ending⟩])

theorem plain_finish (unit : Text) (traced : Traced) :
    plain (finish unit traced) = Conversion.finish unit (plain traced) := by
  rw [finish, plain_unindent, plain_append, plain_trim]
  rfl

end Traced

/-! ## The marked rendering -/

namespace Provenance

open Outcome Traced

/-- The value part of a property; only a value between double quotes is marked as such. -/
def valuePart : Text → Traced
  | '=' :: '"' :: rest => ⟨'=', .startTag⟩ :: of .value ('"' :: rest)
  | other => of .startTag other

/-- The property of an attribute of an element. -/
def property (element name value : Text) : Except NumberFault Traced :=
  if Text.lower name = Property.styleAttribute then
    (Property.style value).map (of .startTag)
  else
    (Property.valuePart name value).map fun part =>
      of .startTag (AttributeName.toJsx element name) ++ valuePart part

/-- The properties of a list of attributes. -/
def ofAttributes (element : Text) : Attributes → Except NumberFault (List Traced)
  | [] => .ok []
  | (name, value) :: rest => do
    let first ← property element name value
    return first :: (← ofAttributes element rest)

/-- The properties of an element: its attributes, then its contents if they are moved. -/
def properties (tag : Text) (attributes : Attributes) (children : List Node) :
    Except NumberFault (List Traced) :=
  let name := ElementName.toJsx tag
  let contents := Property.ofContents name (Node.element tag attributes children).textContent
  (ofAttributes name attributes).map (· ++ contents.map (of .startTag))

/-- The start tag of an element, left open if the element closes itself. -/
def startTag (tag : Text) (attributes : Attributes) (children : List Node) :
    Except Problem Traced :=
  ((properties tag attributes children).mapError Problem.ofNumber).map fun properties =>
    of .startTag ('<' :: ElementName.toJsx tag) ++ properties.flatMap (⟨' ', .startTag⟩ :: ·) ++
      if Canvas.isSelfClosing tag children then [] else [⟨'>', .startTag⟩]

/-- Running text; the layout is marked apart from the text. -/
def reflow (lineBreak : Text) (opened : Nat) : (skipping : Bool) → Text → Traced
  | _, [] => []
  | skipping, c :: rest =>
    if skipping && isBlank c then
      reflow lineBreak opened true rest
    else if c = '\n' then
      of (.layout opened) lineBreak ++ reflow lineBreak opened true rest
    else
      ⟨c, .text⟩ :: reflow lineBreak opened false rest

/-- A run of text that stands in an element, where so many elements are open. -/
def text (unit : Text) (level : Int) (opened : Nat) (parent : Option Text) (inPre : Bool)
    (content : Text) : Except Problem Traced :=
  if parent.any fun tag => Property.movesContents (ElementName.toJsx tag) then
    .ok []
  else if inPre then
    .ok (of .text (Passage.preformatted content))
  else if content.contains '\n' then
    (Canvas.copiesOf unit (level + 2)).map fun blanks =>
      reflow ('\n' :: blanks) opened false (Passage.guarded content)
  else
    .ok (of .text (Passage.guarded content))

mutual

/-- The rendering of a node, where so many elements are open. -/
def node (unit : Text) (level : Int) (opened : Nat) (parent : Option Text) (inPre : Bool) :
    Node → Except Problem Traced
  | .element tag attributes children => do
    let start ← startTag tag attributes children
    let inside ← nodes unit (level + 1) (opened + 1) (some tag) (inPre || Rendering.isPre tag)
      children
    return trimSuffix (start ++ inside) unit ++ of .endTag (Rendering.endTag tag children)
  | .text content => text unit level opened parent inPre content
  | .comment content => .ok (of .comment (Passage.comment content))
  | .special _ _ => .ok []

/-- The renderings of sibling nodes, one after the other. -/
def nodes (unit : Text) (level : Int) (opened : Nat) (parent : Option Text) (inPre : Bool) :
    List Node → Except Problem Traced
  | [] => .ok []
  | first :: rest => do
    let before ← node unit level opened parent inPre first
    let after ← nodes unit level opened parent (Rendering.flagAfter inPre first) rest
    return before ++ after

end

/-- The rendering of a container before it gets its final form. -/
def whole (unit : Text) (container : Node) : Except Problem Traced :=
  if Conversion.hasOneTopLevel container.children then
    nodes unit 1 0 container.tag? false container.children
  else
    (node unit 1 0 none false container).map
      (of (.layout 0) (Text.copies Conversion.bodyLevels unit) ++ ·)

/-! ## Without the marks -/

theorem plain_valuePart (part : Text) : plain (valuePart part) = part := by
  rw [valuePart.eq_def]
  split
  · simp
  · simp

theorem plain_property (element name value : Text) :
    (property element name value).map plain = Property.ofAttribute element name value := by
  rw [property, Property.ofAttribute]
  split
  · cases Property.style value with
    | error fault => rfl
    | ok written => simp [Except.map]
  · cases Property.valuePart name value with
    | error fault => rfl
    | ok part => simp [Except.map, plain_valuePart, bind, Except.bind, pure, Except.pure]

theorem plain_ofAttributes (element : Text) (attributes : Attributes) :
    (ofAttributes element attributes).map (·.map plain) =
      Property.ofAttributes element attributes := by
  induction attributes with
  | nil => rfl
  | cons given rest induction =>
    obtain ⟨name, value⟩ := given
    rw [ofAttributes, Property.ofAttributes, ← plain_property, ← induction, map_bind, bind_map]
    congr 1
    funext first
    rw [map_bind, bind_map]
    rfl

theorem plain_properties (tag : Text) (attributes : Attributes) (children : List Node) :
    (properties tag attributes children).map (·.map plain) =
      Canvas.properties tag attributes children := by
  rw [properties, Canvas.properties, ← plain_ofAttributes]
  cases ofAttributes (ElementName.toJsx tag) attributes with
  | error fault => rfl
  | ok given =>
    have unmarked (texts : List Text) : (texts.map (of .startTag)).map plain = texts := by
      rw [List.map_map]
      exact List.map_id'' (plain_of .startTag) texts
    simp only [Except.map, List.map_append, unmarked]
    rfl

theorem plain_flatMap (properties : List Traced) :
    plain (properties.flatMap (⟨' ', .startTag⟩ :: ·)) =
      (properties.map plain).flatMap (' ' :: ·) := by
  induction properties with
  | nil => rfl
  | cons first rest induction =>
    rw [List.flatMap_cons, plain_append, induction, List.map_cons, List.flatMap_cons]
    rfl

theorem plain_startTag (tag : Text) (attributes : Attributes) (children : List Node) :
    (startTag tag attributes children).map plain =
      Rendering.startTag tag attributes children := by
  rw [startTag, Rendering.startTag, ← plain_properties]
  cases properties tag attributes children with
  | error fault => rfl
  | ok given =>
    have bracket : plain (if Canvas.isSelfClosing tag children then [] else [⟨'>', .startTag⟩]) =
        if Canvas.isSelfClosing tag children then [] else ['>'] := by
      split <;> rfl
    simp only [Except.map, mapError_ok, plain_append, plain_of, plain_flatMap, bracket,
      List.cons_append]

theorem plain_reflow (lineBreak : Text) (opened : Nat) (skipping : Bool) (source : Text) :
    plain (reflow lineBreak opened skipping source) =
      Passage.reflow lineBreak skipping source := by
  induction source generalizing skipping with
  | nil => rfl
  | cons c rest induction =>
    rw [reflow, Passage.reflow]
    split
    · exact induction true
    · split
      · rw [plain_append, plain_of, induction]
      · rw [plain_cons, induction]

theorem plain_text (unit : Text) (level : Int) (opened : Nat) (parent : Option Text)
    (inPre : Bool) (content : Text) :
    (text unit level opened parent inPre content).map plain =
      Rendering.text unit level parent inPre content := by
  rw [text, Rendering.text]
  split
  · rfl
  · split
    · simp [Except.map]
    · split
      · cases Canvas.copiesOf unit (level + 2) with
        | error problem => rfl
        | ok blanks => simp [Except.map, plain_reflow, Passage.running]
      · simp [Except.map]

mutual

/-- Without the marks the marked rendering of a node is its rendering. -/
theorem plain_node (unit : Text) (level : Int) (opened : Nat) (parent : Option Text)
    (inPre : Bool) : (drawn : Node) →
      (node unit level opened parent inPre drawn).map plain =
        Rendering.node unit level parent inPre drawn
  | .element tag attributes children => by
    rw [node, Rendering.node, ← plain_startTag, map_bind, bind_map]
    congr 1
    funext start
    rw [← plain_nodes unit (level + 1) (opened + 1), map_bind, bind_map]
    congr 1
    funext inside
    simp [pure, Except.pure, Except.map]
  | .text content => by
    rw [node, Rendering.node]
    exact plain_text unit level opened parent inPre content
  | .comment content => by
    simp [node, Rendering.node, Except.map]
  | .special _ _ => rfl

theorem plain_nodes (unit : Text) (level : Int) (opened : Nat) (parent : Option Text)
    (inPre : Bool) : (drawn : List Node) →
      (nodes unit level opened parent inPre drawn).map plain =
        Rendering.nodes unit level parent inPre drawn
  | [] => rfl
  | first :: rest => by
    rw [nodes, Rendering.nodes, ← plain_node unit level opened parent inPre first, map_bind,
      bind_map]
    congr 1
    funext before
    rw [← plain_nodes unit level opened parent (Rendering.flagAfter inPre first) rest, map_bind,
      bind_map]
    congr 1
    funext after
    simp [pure, Except.pure, Except.map]

end

theorem plain_whole (unit : Text) (container : Node) :
    (whole unit container).map plain = Rendering.whole unit container := by
  rw [whole, Rendering.whole]
  split
  · exact plain_nodes unit 1 0 _ false _
  · rw [← plain_node unit 1 0]
    cases node unit 1 0 none false container with
    | error problem => rfl
    | ok drawn => simp [Except.map]

/-- The output of a conversion is the final form of the marked rendering, without the marks. -/
theorem output_of_render {unit : Text} (blank : unit.isBlank = true) {container : Node}
    {canvas : Canvas} (rendered : Conversion.render unit container = .ok canvas) :
    ∃ drawn, whole unit container = .ok drawn ∧ canvas.output = plain (finish unit drawn) := by
  obtain ⟨text, found, output⟩ := Rendering.output_of_render blank rendered
  rw [← plain_whole] at found
  obtain ⟨drawn, traced, rfl⟩ := map_eq_ok_iff.mp found
  exact ⟨drawn, traced, by rw [plain_finish, output]⟩

/-! ## Renderings of elements and of siblings -/

theorem node_element_eq_ok {unit : Text} {level : Int} {opened : Nat} {parent : Option Text}
    {inPre : Bool} {tag : Text} {attributes : Attributes} {children : List Node} {drawn : Traced}
    (rendered : node unit level opened parent inPre (.element tag attributes children) =
      .ok drawn) :
    ∃ start inside, startTag tag attributes children = .ok start ∧
      nodes unit (level + 1) (opened + 1) (some tag) (inPre || Rendering.isPre tag) children =
        .ok inside ∧
      drawn = trimSuffix (start ++ inside) unit ++ of .endTag (Rendering.endTag tag children) := by
  rw [node, bind_eq_ok_iff] at rendered
  obtain ⟨start, started, rendered⟩ := rendered
  obtain ⟨inside, filled, ended⟩ := bind_eq_ok_iff.mp rendered
  exact ⟨start, inside, started, filled, (Except.ok.inj ended).symm⟩

theorem nodes_cons_eq_ok {unit : Text} {level : Int} {opened : Nat} {parent : Option Text}
    {inPre : Bool} {first : Node} {rest : List Node} {drawn : Traced}
    (rendered : nodes unit level opened parent inPre (first :: rest) = .ok drawn) :
    ∃ before after, node unit level opened parent inPre first = .ok before ∧
      nodes unit level opened parent (Rendering.flagAfter inPre first) rest = .ok after ∧
      drawn = before ++ after := by
  rw [nodes, bind_eq_ok_iff] at rendered
  obtain ⟨before, begun, rendered⟩ := rendered
  obtain ⟨after, ended, joined⟩ := bind_eq_ok_iff.mp rendered
  exact ⟨before, after, begun, ended, (Except.ok.inj joined).symm⟩

/-- A start tag is an opening bracket with the name, the properties, and perhaps a bracket. -/
theorem startTag_eq_ok {tag : Text} {attributes : Attributes} {children : List Node}
    {start : Traced} (started : startTag tag attributes children = .ok start) :
    ∃ given, ofAttributes (ElementName.toJsx tag) attributes = .ok given ∧
      start = of .startTag ('<' :: ElementName.toJsx tag) ++
        (given ++ (Property.ofContents (ElementName.toJsx tag)
          (Node.element tag attributes children).textContent).map (of .startTag)).flatMap
            (⟨' ', .startTag⟩ :: ·) ++
        if Canvas.isSelfClosing tag children then [] else [⟨'>', .startTag⟩] := by
  rw [startTag, map_eq_ok_iff] at started
  obtain ⟨written, found, rfl⟩ := started
  rw [mapError_eq_ok_iff, properties, map_eq_ok_iff] at found
  obtain ⟨given, found, rfl⟩ := found
  exact ⟨given, found, rfl⟩

theorem startTag_eq_cons {tag : Text} {attributes : Attributes} {children : List Node}
    {start : Traced} (started : startTag tag attributes children = .ok start) :
    ∃ more, start = ⟨'<', .startTag⟩ :: more := by
  obtain ⟨given, -, rfl⟩ := startTag_eq_ok started
  exact ⟨_, rfl⟩

/-- The rendering of an element stands between its first and its last bracket. -/
theorem node_element_eq_between {unit : Text} (blank : unit.isBlank = true) {level : Int}
    {opened : Nat} {parent : Option Text} {inPre : Bool} {tag : Text} {attributes : Attributes}
    {children : List Node} {drawn : Traced}
    (rendered : node unit level opened parent inPre (.element tag attributes children) =
      .ok drawn) :
    ∃ inner, drawn = ⟨'<', .startTag⟩ :: inner ++ [⟨'>', .endTag⟩] := by
  obtain ⟨start, inside, started, -, rfl⟩ := node_element_eq_ok rendered
  obtain ⟨more, rfl⟩ := startTag_eq_cons started
  have bracket : isBlankGlyph ⟨'<', .startTag⟩ = false := by decide
  obtain ⟨kept, trimmed⟩ := trimSuffix_cons bracket (more ++ inside) blank
  rw [List.cons_append, trimmed, Rendering.endTag]
  split
  · exact ⟨kept ++ of .endTag [' ', '/'], by simp⟩
  · exact ⟨kept ++ of .endTag ('<' :: '/' :: ElementName.toJsx tag), by simp⟩

/-- A node that is not text is drawn between solid characters of markup, or it is special. -/
theorem node_of_not_text {unit : Text} (blank : unit.isBlank = true) {level : Int} {opened : Nat}
    {parent : Option Text} {inPre : Bool} {drawn : Node} (other : drawn.isText = false)
    {written : Traced} (rendered : node unit level opened parent inPre drawn = .ok written) :
    (∃ inner, written = ⟨'<', .startTag⟩ :: inner ++ [⟨'>', .endTag⟩]) ∨
      (∃ inner, written = ⟨'{', .comment⟩ :: inner ++ [⟨'}', .comment⟩]) ∨
      ∃ kind content, drawn = .special kind content ∧ written = [] := by
  cases drawn with
  | element tag attributes children => exact .inl (node_element_eq_between blank rendered)
  | text content => cases other
  | comment content =>
    rw [node] at rendered
    cases rendered
    right
    left
    exact ⟨of .comment ("/*".toList ++ Text.replace ['*', '/'] ['*', ' ', '/'] content ++
      "*/".toList), by simp [Passage.comment]⟩
  | special kind content =>
    rw [node] at rendered
    exact .inr (.inr ⟨kind, content, rfl, (Except.ok.inj rendered).symm⟩)

/-- What follows decides how a drawing between two glyphs ends, but not how it begins. -/
theorem ends_between_append {starts stops : Glyph → Prop} {first last : Glyph} (inner : Traced)
    {after : Traced} (starting : starts first) (stopping : stops last)
    (ending : ∀ glyph ∈ after.getLast?, stops glyph) :
    (∀ glyph ∈ (first :: inner ++ [last] ++ after).head?, starts glyph) ∧
      ∀ glyph ∈ (first :: inner ++ [last] ++ after).getLast?, stops glyph := by
  constructor
  · intro glyph edge
    cases edge
    exact starting
  · intro glyph edge
    rw [List.getLast?_append] at edge
    rcases Option.or_eq_some_iff.mp edge with inRest | ⟨-, inFirst⟩
    · exact ending glyph inRest
    · rw [List.getLast?_concat] at inFirst
      cases inFirst
      exact stopping

/-- Where texts are moved away, what is drawn begins and ends with solid characters of markup. -/
theorem ends_of_moved {unit : Text} (blank : unit.isBlank = true) {level : Int} {opened : Nat}
    {tag : Text} (moved : Property.movesContents (ElementName.toJsx tag) = true) {inPre : Bool}
    {drawn : List Node} {written : Traced}
    (rendered : nodes unit level opened (some tag) inPre drawn = .ok written) :
    (∀ glyph ∈ written.head?, glyph = ⟨'<', .startTag⟩ ∨ glyph = ⟨'{', .comment⟩) ∧
      ∀ glyph ∈ written.getLast?, glyph = ⟨'>', .endTag⟩ ∨ glyph = ⟨'}', .comment⟩ := by
  induction drawn generalizing inPre written with
  | nil =>
    rw [nodes] at rendered
    cases rendered
    simp
  | cons first rest induction =>
    obtain ⟨before, after, begun, ended, rfl⟩ := nodes_cons_eq_ok rendered
    obtain ⟨head, last⟩ := induction ended
    cases isText : first.isText with
    | true =>
      obtain ⟨content, rfl⟩ := Node.eq_text_of_isText isText
      rw [node, text, Option.any_some, if_pos moved] at begun
      cases begun
      exact ⟨head, last⟩
    | false =>
      rcases node_of_not_text blank isText begun with
        ⟨inner, rfl⟩ | ⟨inner, rfl⟩ | ⟨kind, content, -, rfl⟩
      · exact ends_between_append inner (.inl rfl) (.inl rfl) last
      · exact ends_between_append inner (.inr rfl) (.inr rfl) last
      · exact ⟨head, last⟩

/-- The same holds of what is drawn inside an element that closes itself. -/
theorem ends_of_selfClosing {unit : Text} (blank : unit.isBlank = true) {level : Int} {opened : Nat}
    {tag : Text} {children : List Node} (closing : Canvas.isSelfClosing tag children = true)
    {inPre : Bool} {inside : Traced}
    (filled : nodes unit level opened (some tag) inPre children = .ok inside) :
    (∀ glyph ∈ inside.head?, glyph = ⟨'<', .startTag⟩ ∨ glyph = ⟨'{', .comment⟩) ∧
      ∀ glyph ∈ inside.getLast?, glyph = ⟨'>', .endTag⟩ ∨ glyph = ⟨'}', .comment⟩ := by
  rw [Canvas.isSelfClosing, Bool.or_eq_true] at closing
  rcases closing with empty | moved
  · rw [List.isEmpty_iff.mp empty, nodes] at filled
    cases filled
    simp
  · exact ends_of_moved blank moved filled

/-! ## The origins in texts and in start tags -/

theorem origin_of_mem_reflow {lineBreak : Text} {opened : Nat} {skipping : Bool} {source : Text}
    {glyph : Glyph} (member : glyph ∈ reflow lineBreak opened skipping source) :
    glyph.origin = .text ∨ glyph.origin = .layout opened := by
  induction source generalizing skipping with
  | nil => cases member
  | cons c rest induction =>
    rw [reflow] at member
    split at member
    · exact induction member
    · split at member
      · rcases List.mem_append.mp member with broken | later
        · exact .inr (origin_of_mem_of broken)
        · exact induction later
      · rcases List.mem_cons.mp member with rfl | later
        · exact .inl rfl
        · exact induction later

theorem origin_of_mem_text {unit : Text} {level : Int} {opened : Nat} {parent : Option Text}
    {inPre : Bool} {content : Text} {written : Traced}
    (rendered : text unit level opened parent inPre content = .ok written) {glyph : Glyph}
    (member : glyph ∈ written) : glyph.origin = .text ∨ glyph.origin = .layout opened := by
  rw [text] at rendered
  split at rendered
  · cases rendered
    cases member
  · split at rendered
    · cases rendered
      exact .inl (origin_of_mem_of member)
    · split at rendered
      · obtain ⟨blanks, -, rfl⟩ := map_eq_ok_iff.mp rendered
        exact origin_of_mem_reflow member
      · cases rendered
        exact .inl (origin_of_mem_of member)

theorem isMarkup_of_mem_valuePart {part : Text} {glyph : Glyph} (member : glyph ∈ valuePart part) :
    glyph.origin = .startTag ∨ glyph.origin = .value := by
  rw [valuePart.eq_def] at member
  split at member
  · rcases List.mem_cons.mp member with rfl | quoted
    · exact .inl rfl
    · exact .inr (origin_of_mem_of quoted)
  · exact .inl (origin_of_mem_of member)

theorem isMarkup_of_mem_property {element name value : Text} {written : Traced}
    (found : property element name value = .ok written) {glyph : Glyph} (member : glyph ∈ written) :
    glyph.origin = .startTag ∨ glyph.origin = .value := by
  rw [property] at found
  split at found
  · obtain ⟨object, -, rfl⟩ := map_eq_ok_iff.mp found
    exact .inl (origin_of_mem_of member)
  · obtain ⟨part, -, rfl⟩ := map_eq_ok_iff.mp found
    rcases List.mem_append.mp member with named | valued
    · exact .inl (origin_of_mem_of named)
    · exact isMarkup_of_mem_valuePart valued

theorem isMarkup_of_mem_ofAttributes {element : Text} {attributes : Attributes}
    {written : List Traced} (found : ofAttributes element attributes = .ok written)
    {given : Traced} (listed : given ∈ written) {glyph : Glyph} (member : glyph ∈ given) :
    glyph.origin = .startTag ∨ glyph.origin = .value := by
  induction attributes generalizing written with
  | nil =>
    cases found
    cases listed
  | cons head rest induction =>
    obtain ⟨name, value⟩ := head
    rw [ofAttributes, bind_eq_ok_iff] at found
    obtain ⟨first, begun, found⟩ := found
    obtain ⟨others, remaining, joined⟩ := bind_eq_ok_iff.mp found
    obtain rfl := Except.ok.inj joined
    rcases List.mem_cons.mp listed with rfl | later
    · exact isMarkup_of_mem_property begun member
    · exact induction remaining later

/-- A start tag consists of markup and of values between quotes. -/
theorem isMarkup_of_mem_startTag {tag : Text} {attributes : Attributes} {children : List Node}
    {start : Traced} (started : startTag tag attributes children = .ok start) {glyph : Glyph}
    (member : glyph ∈ start) : glyph.origin = .startTag ∨ glyph.origin = .value := by
  obtain ⟨given, found, rfl⟩ := startTag_eq_ok started
  rcases List.mem_append.mp member with inner | bracket
  · rcases List.mem_append.mp inner with named | listed
    · exact .inl (origin_of_mem_of named)
    · obtain ⟨one, among, within⟩ := List.mem_flatMap.mp listed
      rcases List.mem_cons.mp within with rfl | written
      · exact .inl rfl
      · rcases List.mem_append.mp among with early | late
        · exact isMarkup_of_mem_ofAttributes found early written
        · obtain ⟨contents, -, rfl⟩ := List.mem_map.mp late
          exact .inl (origin_of_mem_of written)
  · split at bracket
    · cases bracket
    · obtain rfl := List.mem_singleton.mp bracket
      exact .inl rfl

theorem isLayout_of_mem_startTag {tag : Text} {attributes : Attributes} {children : List Node}
    {start : Traced} (started : startTag tag attributes children = .ok start) :
    ∀ glyph ∈ start, glyph.origin.isLayout = false := by
  intro glyph member
  rcases isMarkup_of_mem_startTag started member with named | valued
  · rw [named]
    rfl
  · rw [valued]
    rfl

end Provenance

end HtmlJsx
