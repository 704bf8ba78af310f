import HtmlJsx.Proofs.PassageMeaning
import HtmlJsx.Proofs.RawEnd
import HtmlJsx.Proofs.SingleRoot

/-!
# Plain text from end to end

A text without brackets and ampersands is read as one text node, and as it is
visible the container is drawn around it.  Its lines are laid out four units
deep, three of which are removed from every line in the end, so that one unit
is left.  Before the end tag the layout ends in one unit less, since the tag
stands one level above the text.

The white space around the text is trimmed, and a line break on either side of
it is added before it is read.  These line breaks become the lines of the tags.
-/

namespace HtmlJsx.PlainText

open Outcome PassageMeaning Passage

/-! ## Reading plain text -/

theorem leads_plain {text : Text} (unmarked : ∀ c ∈ text, Lexer.isMark c = false)
    (builder : Builder) : Lexer.Leads text builder (builder.take (.text text)) := by
  induction text generalizing builder with
  | nil =>
    rw [Lexer.take_text_nil]
    exact .refl builder
  | cons c rest induction =>
    rw [List.forall_mem_cons] at unmarked
    have later := induction unmarked.2 (builder.take (.text [c]))
    rw [Lexer.take_text_append] at later
    exact (Lexer.Leads.of_char unmarked.1 builder).trans later

/-- Text without marks is read as one node. -/
theorem read_plain {text : Text} (unmarked : ∀ c ∈ text, Lexer.isMark c = false)
    (nonempty : text ≠ []) :
    Fragment.read .builtIn text = .ok (.element Fragment.containerTag [] [.text text]) := by
  obtain ⟨found, lexed, built⟩ := Lexer.tokens_of_leads (leads_plain unmarked {})
  have tree : Node.ofTokens found = [.text text] := by
    cases text with
    | nil => exact absurd rfl nonempty
    | cons c rest =>
      rw [Node.ofTokens, built]
      rfl
  rw [Fragment.read, lexed]
  dsimp only
  rw [tree]
  rfl

/-! ## The layout of plain text -/

/-- The characters that are not written as themselves, with what is written for them. -/
def symbols : List (Char × Text) :=
  [('>', "&gt;".toList), ('\u00a0', "&nbsp;".toList), ('{', ['{', '\'', '{', '\'', '}']),
    ('}', ['{', '\'', '}', '\'', '}'])]

/-- What is written for a character of plain text. -/
def symbol (c : Char) : Text :=
  (symbols.lookup c).getD [c]

/--
Plain text as it is shown: characters that stand for something else are
replaced, and every line begins with one indent unit.
-/
def shown (unit text : Text) : Text :=
  relaid ('\n' :: unit) (text.flatMap symbol)

theorem piece_eq_symbol {c : Char} (noMark : Lexer.isMark c = false) : piece c = symbol c := by
  by_cases special : c ∈ marks
  · have known : (marks.all fun c => Lexer.isMark c || piece c == symbol c) = true := by decide
    have agrees := List.all_eq_true.mp known c special
    rw [noMark, Bool.false_or, beq_iff_eq] at agrees
    exact agrees
  · have unknown : symbols.lookup c = none := by
      have keys : symbols.map Prod.fst ⊆ marks := by decide
      rw [List.lookup_eq_none_iff]
      intro entry member
      rw [bne_iff_ne]
      rintro rfl
      exact special (keys (List.mem_map_of_mem member))
    rw [piece_of_not_mem special, symbol, unknown]
    rfl

theorem guarded_eq_flatMap {text : Text} (unmarked : ∀ c ∈ text, Lexer.isMark c = false) :
    guarded text = text.flatMap symbol := by
  induction text with
  | nil => rfl
  | cons c rest induction =>
    rw [List.forall_mem_cons] at unmarked
    rw [guarded_cons, piece_eq_symbol unmarked.1, induction unmarked.2, List.flatMap_cons]

/-- A line break that is skipped takes the blanks after it with it. -/
theorem reflow_eq_relaid (layout : Text) (skipping : Bool) {text : Text}
    (noSpace : '\u00a0' ∉ text) :
    reflow layout skipping text =
      relaid layout (if skipping then text.dropWhile isLayoutBlank else text) := by
  induction text generalizing skipping with
  | nil => rw [List.dropWhile_nil, ite_self, relaid]; rfl
  | cons c rest induction =>
    rw [List.mem_cons, not_or] at noSpace
    have blank : isLayoutBlank c = isBlank c := by
      simp [isLayoutBlank, Ne.symm noSpace.1]
    rw [reflow, ← blank]
    split
    · next skipped =>
      rw [Bool.and_eq_true] at skipped
      rw [skipped.1, if_pos rfl, List.dropWhile_cons_of_pos skipped.2]
      exact induction true noSpace.2
    · next kept =>
      rw [dropWhile_of_kept kept, relaid]
      split
      · rw [induction true noSpace.2, if_pos rfl]
      · rw [induction false noSpace.2, if_neg Bool.false_ne_true]

/-- What is written for a character holds no other blank than itself. -/
theorem blank_not_mem_piece {blank : Char} (white : isBlank blank = true) {c : Char}
    (other : c ≠ blank ∨ c ∈ marks) : blank ∉ piece c := by
  by_cases special : c ∈ marks
  · obtain ⟨-, solid, -⟩ := solid_of_mem _ (piece_of_mem c special).1
    intro member
    exact ne_of_isBlank white (solid blank member) rfl
  · rw [piece_of_not_mem special, List.mem_singleton]
    exact Ne.symm (other.resolve_right special)

theorem noBreakSpace_not_mem_guarded (text : Text) : '\u00a0' ∉ guarded text := by
  induction text with
  | nil => exact List.not_mem_nil
  | cons c rest induction =>
    rw [guarded_cons, List.mem_append, not_or]
    refine ⟨blank_not_mem_piece (by decide) ?_, induction⟩
    by_cases space : c = '\u00a0'
    · exact .inr (by rw [space]; decide)
    · exact .inl space

/-- A solid character is written as it is, whatever the line breaks around it are. -/
theorem reflow_guarded_append {d : Char} (solid : isBlank d = false) (layout : Text)
    (skipping : Bool) (front back : Text) :
    reflow layout skipping (guarded (front ++ d :: back)) =
      reflow layout skipping (guarded front) ++ piece d ++ reflow layout false (guarded back) := by
  have noLayout : isLayoutBlank d = false := by rw [isLayoutBlank, solid, Bool.false_and]
  have noBreak : d ≠ '\n' := fun same => absurd solid (by rw [same]; decide)
  induction front generalizing skipping with
  | nil =>
    rw [List.nil_append, reflow_guarded_cons, noLayout, Bool.and_false,
      if_neg Bool.false_ne_true, if_neg noBreak]
    rfl
  | cons c front induction =>
    rw [List.cons_append, reflow_guarded_cons, reflow_guarded_cons]
    split
    · exact induction true
    · split
      · rw [induction true, List.append_assoc, List.append_assoc, List.append_assoc]
      · rw [induction false, List.append_assoc, List.append_assoc, List.append_assoc]

/-- Line breaks around a text that begins and ends with solid characters are written around it. -/
theorem running_between {text : Text} (nonempty : text ≠ [])
    (first : ∀ c ∈ text.head?, isBlank c = false) (last : ∀ c ∈ text.getLast?, isBlank c = false)
    (layout : Text) :
    running layout ('\n' :: text ++ ['\n']) = layout ++ running layout text ++ layout := by
  -- The text begins with a solid character, so the first line break takes nothing of it.
  have unskipped : reflow layout true (guarded (text ++ ['\n'])) =
      reflow layout false (guarded (text ++ ['\n'])) := by
    cases text with
    | nil => exact absurd rfl nonempty
    | cons c rest =>
      have noLayout : isLayoutBlank c = false := by rw [isLayoutBlank, first c rfl, Bool.false_and]
      rw [List.cons_append, reflow_guarded_cons, reflow_guarded_cons, noLayout, Bool.and_false,
        Bool.and_false]
  have ended : reflow layout false (guarded ['\n']) = layout := by
    rw [reflow_guarded_cons, Bool.false_and, if_neg Bool.false_ne_true, if_pos rfl]
    exact List.append_nil layout
  obtain ⟨front, d, rfl⟩ : ∃ front d, text = front ++ [d] :=
    ⟨_, _, (List.dropLast_concat_getLast nonempty).symm⟩
  have solid : isBlank d = false := last d (by simp)
  have whole : running layout (front ++ [d]) = reflow layout false (guarded front) ++ piece d := by
    rw [running, reflow_guarded_append solid]
    exact List.append_nil _
  calc running layout ('\n' :: (front ++ [d]) ++ ['\n'])
      = layout ++ reflow layout true (guarded (front ++ [d] ++ ['\n'])) := by
        rw [running, List.cons_append, reflow_guarded_cons, Bool.false_and,
          if_neg Bool.false_ne_true, if_pos rfl]
    _ = layout ++ (reflow layout false (guarded front) ++ piece d ++ layout) := by
        rw [unskipped, List.append_assoc, List.singleton_append, reflow_guarded_append solid, ended]
    _ = layout ++ running layout (front ++ [d]) ++ layout := by
        rw [whole, ← List.append_assoc]

/-- Unindenting takes the indentation of the place out of every line break. -/
theorem unindent_reflow {unit : Text} (oneLine : '\n' ∉ unit) (skipping : Bool)
    (text rest : Text) :
    Conversion.unindent unit
        (reflow (Conversion.indentation unit ++ unit) skipping (guarded text) ++ rest) =
      reflow ('\n' :: unit) skipping (guarded text) ++ Conversion.unindent unit rest := by
  induction text generalizing skipping with
  | nil => rfl
  | cons c text induction =>
    rw [reflow_guarded_cons, reflow_guarded_cons]
    split
    · exact induction true
    · split
      · rw [List.append_assoc, List.append_assoc, Conversion.unindent_indentation_append,
          Conversion.unindent_append_of_not_mem oneLine, induction true]
        simp
      · next other =>
        have inLine : '\n' ∉ piece c := blank_not_mem_piece (by decide) (.inl other)
        rw [List.append_assoc, Conversion.unindent_append_of_not_mem inLine, induction false,
          List.append_assoc]

theorem running_eq_shown {text : Text} (unmarked : ∀ c ∈ text, Lexer.isMark c = false)
    (unit : Text) : running ('\n' :: unit) text = shown unit text := by
  rw [running, reflow_eq_relaid _ false (noBreakSpace_not_mem_guarded text),
    if_neg Bool.false_ne_true, guarded_eq_flatMap unmarked, shown]

/-! ## Converting plain text -/

/-- A visible text with a line break is drawn in the container, at the level of its contents. -/
theorem whole_text {unit content : Text} (visible : content.isBlank = false)
    (broken : '\n' ∈ content) :
    Rendering.whole unit (.element Fragment.containerTag [] [.text content]) =
      .ok (Text.copies Conversion.bodyLevels unit ++
        (Text.trimSuffix
          ("<div>".toList ++ running (Conversion.indentation unit ++ unit) content) unit ++
            "</div>".toList)) := by
  have name : ElementName.toJsx Fragment.containerTag = "div".toList := by decide +kernel
  have several : Conversion.hasOneTopLevel [.text content] = false := by
    simp [Conversion.hasOneTopLevel, Conversion.isVisibleText, visible]
  have opened : Canvas.isSelfClosing Fragment.containerTag [.text content] = false := by
    rw [Canvas.isSelfClosing, name]
    rfl
  have started : Rendering.startTag Fragment.containerTag [] [.text content] =
      .ok "<div>".toList := by
    rw [Rendering.startTag, Canvas.properties, opened, name]
    rfl
  -- A text inside the container is one level deeper than what is unindented in the end.
  have layout : Conversion.indentation unit ++ unit = '\n' :: Text.copies 4 unit := by
    rw [Conversion.indentation, List.cons_append]
    simp [Text.copies, Conversion.bodyLevels]
  have shown : Property.movesContents "div".toList = false := by decide
  have inside : Rendering.nodes unit 2 (some Fragment.containerTag) false [.text content] =
      .ok (running (Conversion.indentation unit ++ unit) content) := by
    rw [Rendering.nodes, Rendering.node, Rendering.text, Option.any_some, name, shown,
      if_neg Bool.false_ne_true, if_neg Bool.false_ne_true,
      if_pos (List.contains_iff_mem.mpr broken), layout]
    exact congrArg Except.ok (List.append_nil _)
  have ended : Rendering.endTag Fragment.containerTag [.text content] = "</div>".toList := by
    rw [Rendering.endTag, opened, name]
    rfl
  rw [Rendering.whole]
  change (if Conversion.hasOneTopLevel [.text content] = true then _ else _) = _
  rw [several, if_neg Bool.false_ne_true, Rendering.node, started]
  change ((Rendering.nodes unit 2 (some Fragment.containerTag) false [.text content] >>= _)).map _ = _
  rw [inside, ended]
  rfl

/-- The final form of a text in the container: one unit is left of the layout of its lines. -/
theorem finish_container {unit : Text} (nonempty : unit ≠ []) (blank : unit.isBlank = true)
    (oneLine : '\n' ∉ unit) {layout : Text} (deep : layout = Conversion.indentation unit ++ unit)
    (text : Text) :
    Conversion.finish unit (Text.copies Conversion.bodyLevels unit ++
      (Text.trimSuffix ("<div>".toList ++ (layout ++ running layout text ++ layout)) unit ++
        "</div>".toList)) =
      "<div>\n".toList ++ unit ++ running ('\n' :: unit) text ++ "\n</div>\n".toList := by
  have trimmed : Text.trimSuffix ("<div>".toList ++ (layout ++ running layout text ++ layout)) unit =
      "<div>".toList ++ (layout ++ running layout text ++ Conversion.indentation unit) := by
    rw [← Text.trimSuffix_append nonempty
      ("<div>".toList ++ (layout ++ running layout text ++ Conversion.indentation unit)), deep]
    simp
  have swept : Conversion.unindent unit ("<div>".toList ++ (Conversion.indentation unit ++ (unit ++
      (running layout text ++ (Conversion.indentation unit ++ "</div>".toList))))) =
        "<div>".toList ++ '\n' :: (unit ++ (running ('\n' :: unit) text ++
          '\n' :: "</div>".toList)) := by
    rw [Conversion.unindent_append_of_not_mem (by decide), Conversion.unindent_indentation_append,
      Conversion.unindent_append_of_not_mem oneLine, running, deep, unindent_reflow oneLine,
      Conversion.unindent_indentation_append, Conversion.unindent_of_not_mem (by decide), running]
  have placed := @SingleRoot.finish_element unit blank (Text.copies Conversion.bodyLevels unit)
    ("div>".toList ++ (layout ++ running layout text ++ Conversion.indentation unit) ++
      "</div".toList) [] (Text.isBlank_copies blank _) rfl
  rw [deep] at swept
  calc Conversion.finish unit (Text.copies Conversion.bodyLevels unit ++
        (Text.trimSuffix ("<div>".toList ++ (layout ++ running layout text ++ layout)) unit ++
          "</div>".toList))
      = Conversion.unindent unit ("<div>".toList ++ (layout ++ running layout text ++
          Conversion.indentation unit) ++ "</div>".toList) ++ ['\n'] := by
        rw [trimmed]
        simpa using placed
    _ = "<div>\n".toList ++ unit ++ running ('\n' :: unit) text ++ "\n</div>\n".toList := by
        rw [deep]
        simp only [List.append_assoc]
        rw [swept]
        simp

theorem unmarked_trim {html : Text} (noBracket : '<' ∉ html) (noAmpersand : '&' ∉ html) :
    ∀ c ∈ Text.trim html, Lexer.isMark c = false := by
  intro c member
  obtain ⟨before, after, -, -, split⟩ := Text.exists_eq_append_trim html
  have within : c ∈ html := by
    rw [split]
    exact List.mem_append_left _ (List.mem_append_right _ member)
  have bracket : c ≠ '<' := fun same => noBracket (same ▸ within)
  have ampersand : c ≠ '&' := fun same => noAmpersand (same ▸ within)
  simp [Lexer.isMark, bracket, ampersand]

/-- Plain text is read as one node: what is left of it by trimming, between two line breaks. -/
theorem read_markup {html : Text} (unmarked : ∀ c ∈ Text.trim html, Lexer.isMark c = false) :
    Fragment.read .builtIn (Conversion.markup html) =
      .ok (.element Fragment.containerTag [] [.text ('\n' :: Text.trim html ++ ['\n'])]) := by
  have bracket : '<' ∉ Text.trim html := fun member => absurd (unmarked _ member) (by decide)
  rw [Conversion.markup, Conversion.clean, Conversion.removeScripts_of_not_mem bracket]
  apply read_plain
  · intro c member
    rw [List.mem_append, List.mem_cons, List.mem_singleton] at member
    rcases member with (rfl | inside) | rfl
    · decide
    · exact unmarked c inside
    · decide
  · exact List.cons_ne_nil _ _

/--
Visible text without brackets and ampersands is shown in the container, on
lines of their own, each of which begins with one indent unit.
-/
theorem convert_plainText (options : Options) (html : Text) (noBracket : '<' ∉ html)
    (noAmpersand : '&' ∉ html) (visible : html.isBlank = false)
    (builtIn : options.backend = .builtIn) (oneLine : '\n' ∉ options.indent) :
    ∃ canvas, Conversion.convert options html = .ok canvas ∧
      canvas.output = "<div>\n".toList ++ options.indent ++
        shown options.indent (Text.trim html) ++ "\n</div>\n".toList := by
  have unmarked := unmarked_trim noBracket noAmpersand
  have solid : Text.isBlank (Text.trim html) = false := by
    rw [← Bool.not_eq_true, ← Text.solids_eq_nil_iff, Text.solids_trim, Text.solids_eq_nil_iff,
      visible]
    exact Bool.false_ne_true
  have nonempty : Text.trim html ≠ [] := by
    intro empty
    rw [empty] at solid
    cases solid
  have parsed := read_markup unmarked
  rw [← builtIn] at parsed
  have drawn := @whole_text options.indent ('\n' :: Text.trim html ++ ['\n']) (by simp [solid])
    (by simp)
  rw [running_between nonempty (Text.solid_of_head?_trim html) (Text.solid_of_getLast?_trim html)]
    at drawn
  have agrees := Rendering.output_render_eq options.indent_blank
    (.element Fragment.containerTag [] [.text ('\n' :: Text.trim html ++ ['\n'])])
  rw [drawn] at agrees
  obtain ⟨canvas, rendered, output⟩ := map_eq_ok_iff.mp agrees
  refine ⟨canvas, ?_, ?_⟩
  · rw [Rendering.convert_eq_render parsed]
    exact mapError_eq_ok_iff.mp rendered
  · rw [output, finish_container options.indent_nonempty options.indent_blank oneLine rfl,
      running_eq_shown unmarked]

/-- A text of three lines with white space around it, all symbols, and blanks after line breaks. -/
def spacedLines : Text := "\u00a0 a > \x7bb\x7d\n\t\u00a0 c\n\n   d \n".toList

theorem convert_plainText_spacedLines :
    '<' ∉ spacedLines ∧ '&' ∉ spacedLines ∧ spacedLines.isBlank = false ∧
      ∃ canvas, Conversion.convert { indent := "\t ".toList } spacedLines = .ok canvas ∧
        canvas.output = "<div>\n\t a &gt; \x7b'\x7b'\x7db\x7b'\x7d'\x7d\n".toList ++
          "\t &nbsp; c\n\t d\n</div>\n".toList := by
  have noBracket : '<' ∉ spacedLines := by decide
  have noAmpersand : '&' ∉ spacedLines := by decide
  have visible : spacedLines.isBlank = false := by decide
  obtain ⟨canvas, converted, output⟩ := convert_plainText { indent := "\t ".toList } spacedLines
    noBracket noAmpersand visible rfl (by decide)
  refine ⟨noBracket, noAmpersand, visible, canvas, converted, output.trans ?_⟩
  decide +kernel

end HtmlJsx.PlainText
