import HtmlJsx.Jsx.Passage
import HtmlJsx.Proofs.Reader.Machine

/-!
# Reading passages of text

A passage of text leaves the reader where it was: nothing in it opens a tag,
and every brace it holds belongs to a string expression that is closed again.
A comment is read as one comment, whatever it contains, because the end mark
does not occur in it before its end.
-/

namespace HtmlJsx

namespace Passage

/-- The text of a comment with the end marks in it broken up. -/
def unmarked (text : Text) : Text :=
  Text.replace ['*', '/'] ['*', ' ', '/'] text

theorem unmarked_mark (rest : Text) :
    unmarked ('*' :: '/' :: rest) = '*' :: ' ' :: '/' :: unmarked rest := rfl

theorem unmarked_cons {c : Char} {rest : Text}
    (apart : ∀ more, c = '*' → rest = '/' :: more → False) :
    unmarked (c :: rest) = c :: unmarked rest := by
  have differs : ['*', '/'].isPrefixOf (c :: rest) = false := by
    rw [← Bool.not_eq_true, List.isPrefixOf_iff_prefix]
    rintro ⟨more, equal⟩
    obtain ⟨first, others⟩ := List.cons.inj equal
    exact apart more first.symm others.symm
  simp [unmarked, Text.replace, Text.replaceFrom, differs]

/-- A text is taken apart into end marks and characters that do not begin one. -/
theorem mark_induction {motive : Text → Prop} (nil : motive [])
    (mark : ∀ rest, motive rest → motive ('*' :: '/' :: rest))
    (cons : ∀ c rest, (∀ more, c = '*' → rest = '/' :: more → False) → motive rest →
      motive (c :: rest)) :
    (text : Text) → motive text
  | [] => nil
  | [c] => cons c [] (fun _ _ wrong => by cases wrong) nil
  | c :: d :: rest => by
    by_cases marked : c = '*' ∧ d = '/'
    · obtain ⟨rfl, rfl⟩ := marked
      exact mark rest (mark_induction nil mark cons rest)
    · apply cons c (d :: rest) _ (mark_induction nil mark cons (d :: rest))
      intro more first others
      exact marked ⟨first, (List.cons.inj others).1⟩

theorem head?_unmarked (text : Text) : (unmarked text).head? = text.head? := by
  cases text using mark_induction with
  | nil => rfl
  | mark rest => rfl
  | cons c rest apart => rw [unmarked_cons apart]; rfl

/-- No end mark is left, and none has come into being. -/
theorem not_infix_unmarked (text : Text) : ¬ ['*', '/'] <:+: unmarked text := by
  induction text using mark_induction with
  | nil => decide
  | mark rest induction =>
    simp [unmarked_mark, List.infix_cons_iff, induction]
  | cons c rest apart induction =>
    rw [unmarked_cons apart, List.infix_cons_iff, not_or]
    refine ⟨?_, induction⟩
    rintro ⟨after, equal⟩
    obtain ⟨first, others⟩ := List.cons.inj equal
    -- The replacement keeps first characters, so the slash was there before.
    have slash : rest.head? = some '/' := by
      rw [← head?_unmarked, ← others]
      rfl
    obtain ⟨more, found⟩ := List.head?_eq_some_iff.mp slash
    exact apart more first.symm found

/-- Breaking up the end marks adds blanks only. -/
theorem solids_unmarked (text : Text) : Text.solids (unmarked text) = Text.solids text := by
  induction text using mark_induction with
  | nil => rfl
  | mark rest induction =>
    simpa [unmarked_mark, Text.solids, isBlank] using induction
  | cons c rest apart induction =>
    rw [unmarked_cons apart]
    cases blank : isBlank c with
    | true => rw [Text.solids_cons_of_isBlank blank, Text.solids_cons_of_isBlank blank, induction]
    | false => rw [Text.solids_cons_of_solid blank, Text.solids_cons_of_solid blank, induction]

end Passage

namespace Reader

/-- What may stand between the double quotes of a string. -/
inductive LiteralBody : Text → Prop where
  | nil : LiteralBody []
  | char {c : Char} {rest : Text} (quote : c ≠ '"') (backslash : c ≠ '\\')
      (body : LiteralBody rest) : LiteralBody (c :: rest)
  | escape {c : Char} {rest : Text} (body : LiteralBody rest) : LiteralBody ('\\' :: c :: rest)

theorem LiteralBody.append {left right : Text} (first : LiteralBody left)
    (second : LiteralBody right) : LiteralBody (left ++ right) := by
  induction first with
  | nil => exact second
  | char quote backslash _ induction => exact .char quote backslash induction
  | escape _ induction => exact .escape induction

/-- A hexadecimal digit is neither a quote nor a backslash. -/
theorem hexDigit_plain {value : Nat} (small : value < 16) :
    Text.hexDigit value ≠ '"' ∧ Text.hexDigit value ≠ '\\' := by
  revert value
  decide

theorem LiteralBody.hexDigits (width number : Nat) : LiteralBody (Text.hexDigits width number) := by
  induction width generalizing number with
  | zero => exact .nil
  | succ width induction =>
    have plain := hexDigit_plain (Nat.mod_lt number (by decide : 16 > 0))
    exact (induction (number / 16)).append (.char plain.1 plain.2 .nil)

theorem LiteralBody.literalChar (c : Char) : LiteralBody (Text.literalChar c) := by
  rw [Text.literalChar]
  split
  · exact .escape .nil
  · next quote =>
    split
    · exact .escape .nil
    · next backslash =>
      repeat' split
      · exact .escape .nil
      · exact .escape .nil
      · exact .escape .nil
      · exact .escape .nil
      · exact .escape .nil
      · exact .escape (.hexDigits 4 _)
      · exact .char quote backslash .nil

/-- A literal holds no quote but at its ends, except after a backslash. -/
theorem LiteralBody.literal (text : Text) : LiteralBody (text.flatMap Text.literalChar) := by
  induction text with
  | nil => exact .nil
  | cons c rest induction => exact (LiteralBody.literalChar c).append induction

namespace State

variable {state : State}

/-- A character of text that opens and closes nothing is passed over. -/
theorem step_content (content : state.mode = .content) {c : Char} (bracket : c ≠ '<')
    (closing : c ≠ '>') (brace : c ≠ '{') (closingBrace : c ≠ '}') :
    state.step c = some state := by
  simp [step, content, bracket, closing, brace, closingBrace]

/-- A string is read to its end. -/
theorem run_string {body : Text} (literal : LiteralBody body) (rest : Text) :
    (state.enter (.brace (.string .double))).run (body ++ rest) =
      (state.enter (.brace (.string .double))).run rest := by
  induction literal with
  | nil => rfl
  | char quote backslash _ induction =>
    rw [← induction]
    simp [step, stepBrace, enter, Quote.mark, quote, backslash]
  | escape _ induction =>
    rw [← induction]
    simp [step, stepBrace, enter]

/-- A string expression leaves the reader where it was. -/
theorem run_expression (content : state.mode = .content) (text rest : Text) :
    state.run (Passage.expression text ++ rest) = state.run rest := by
  have opened : state.run ('{' :: '"' :: (text.flatMap Text.literalChar ++ '"' :: '}' :: rest)) =
      (state.enter (.brace (.string .double))).run
        (text.flatMap Text.literalChar ++ '"' :: '}' :: rest) := by
    simp [step, stepBrace, enter, content]
  have closed : (state.enter (.brace (.string .double))).run ('"' :: '}' :: rest) =
      state.run rest := by
    simp [step, stepBrace, enter, Quote.mark, ← content]
  simp only [Passage.expression, Text.literal, List.cons_append, List.append_assoc,
    List.nil_append]
  rw [opened, run_string (.literal text), closed]

/-! ## Running text -/

/-- Pieces that each leave the reader where it was do so together. -/
theorem run_flatMap {pieces : Char → Text} (each : ∀ c, state.run (pieces c) = some state)
    (text : Text) : state.run (text.flatMap pieces) = some state := by
  induction text with
  | nil => rfl
  | cons c rest induction =>
    rw [List.flatMap_cons, run_append, each c]
    exact induction

/-- Running text leaves the reader where it was. -/
theorem run_guarded (content : state.mode = .content) (text : Text) :
    state.run (Passage.guarded text) = some state := by
  rw [Passage.guarded, Passage.escape, List.flatMap_assoc]
  apply run_flatMap
  intro c
  obtain ⟨mode, shapes, opened⟩ := state
  obtain rfl : mode = .content := content
  by_cases space : c = '\u00a0'
  · subst space
    rfl
  by_cases ampersand : c = '&'
  · subst ampersand
    rfl
  by_cases bracket : c = '<'
  · subst bracket
    rfl
  by_cases closing : c = '>'
  · subst closing
    rfl
  by_cases brace : c = '{'
  · subst brace
    rfl
  by_cases closingBrace : c = '}'
  · subst closingBrace
    rfl
  have plain : (Passage.escapeChar c).flatMap Passage.guardBrace = [c] := by
    simp [Passage.escapeChar, Source.escapeChar, Passage.guardBrace, space, ampersand, bracket,
      closing, brace, closingBrace]
  rw [plain, run_cons, step_content rfl bracket closing brace closingBrace]
  rfl

/--
Replacing line breaks by the layout is not seen.  While blanks are dropped,
which follow a line break, the state is settled.
-/
theorem run_reflow {blanks : Text} (blank : blanks.isBlank = true) (text : Text)
    (state : State) (skipping : Bool) (settled : skipping = true → state.Settled) :
    state.run (Passage.reflow ('\n' :: blanks) skipping text) = state.run text := by
  induction text generalizing state skipping with
  | nil => rfl
  | cons c rest induction =>
    rw [Passage.reflow]
    split
    · next dropped =>
      rw [Bool.and_eq_true] at dropped
      have still := settled dropped.1
      have passed : state.run ([c] ++ rest) = state.run rest :=
        still.run_blanks [c] (by simp [dropped.2]) rest
      rw [induction state true fun _ => still, ← passed]
      rfl
    · split
      · next newline =>
        subst newline
        rw [List.cons_append, run_cons, run_cons]
        cases stepped : state.step '\n' with
        | none => rfl
        | some next =>
          have still : next.Settled := settled_of_step (by decide) stepped
          exact (still.run_blanks blanks blank _).trans (induction next true fun _ => still)
      · rw [run_cons, run_cons]
        congr 1
        funext next
        exact induction next false fun wrong => absurd wrong Bool.false_ne_true

theorem run_running (content : state.mode = .content) {blanks : Text}
    (blank : blanks.isBlank = true) (text : Text) :
    state.run (Passage.running ('\n' :: blanks) text) = some state := by
  rw [Passage.running, run_reflow blank _ state false fun wrong => absurd wrong Bool.false_ne_true]
  exact run_guarded content text

/-! ## Preformatted text -/

theorem no_bracket_of_all {text : Text} (plain : (text.all fun c => c != '<' && c != '>') = true)
    {c : Char} (member : c ∈ text) : c ≠ '<' ∧ c ≠ '>' := by
  simpa using List.all_eq_true.mp plain c member

/-- Escaped text holds no brackets. -/
theorem no_bracket_escape {c : Char} {text : Text} (member : c ∈ Passage.escape text) :
    c ≠ '<' ∧ c ≠ '>' := by
  rw [Passage.escape, List.mem_flatMap] at member
  obtain ⟨source, -, member⟩ := member
  rw [Passage.escapeChar, Source.escapeChar] at member
  split at member
  · exact no_bracket_of_all (by decide) member
  split at member
  · exact no_bracket_of_all (by decide) member
  split at member
  · exact no_bracket_of_all (by decide) member
  split at member
  · exact no_bracket_of_all (by decide) member
  · next bracket closing =>
    obtain rfl := List.mem_singleton.mp member
    exact ⟨bracket, closing⟩

theorem run_spaces (content : state.mode = .content) (count : Nat) (rest : Text) :
    state.run (Passage.spaces count ++ rest) = state.run rest := by
  rw [Passage.spaces]
  split
  · exact run_expression content _ rest
  · exact (settled_of_content content).run_blanks _
      (Text.isBlank_replicate (by decide) count) rest

theorem run_guardFrom (content : state.mode = .content) (text : Text)
    (plain : ∀ c ∈ text, c ≠ '<' ∧ c ≠ '>') (pending : Nat) :
    state.run (Passage.guardFrom pending text) = some state := by
  induction text generalizing pending with
  | nil =>
    have spaces := run_spaces content pending []
    rwa [List.append_nil] at spaces
  | cons c rest induction =>
    have others : ∀ d ∈ rest, d ≠ '<' ∧ d ≠ '>' := fun d member =>
      plain d (List.mem_cons_of_mem c member)
    rw [Passage.guardFrom]
    split
    · exact induction others (pending + 1)
    · rw [List.append_assoc, run_spaces content]
      split
      · rw [run_expression content]
        exact induction others 0
      · next unguarded =>
        simp only [Passage.isGuarded, Bool.or_eq_true, beq_iff_eq, not_or] at unguarded
        obtain ⟨bracket, closing⟩ := plain c List.mem_cons_self
        rw [List.singleton_append, run_cons,
          step_content content bracket closing unguarded.1.2 unguarded.2]
        exact induction others 0

/-- Preformatted text leaves the reader where it was. -/
theorem run_preformatted (content : state.mode = .content) (text : Text) :
    state.run (Passage.preformatted text) = some state := by
  apply run_guardFrom content
  intro c member
  exact no_bracket_escape (List.mem_filter.mp member).1

/-! ## Comments -/

/--
The text of a comment is read up to the end mark, which it does not contain.
After a star the text must not go on with a slash.
-/
theorem run_commentBody (text : Text) (unmarked : ¬ ['*', '/'] <:+: text) :
    (∀ body : Text,
      (state.enter (.brace (.comment body))).run (text ++ ['*', '/', '}']) =
        some (state.add [.comment (body ++ Text.solids text)])) ∧
    (∀ body : Text, text.head? ≠ some '/' →
      (state.enter (.brace (.star body))).run (text ++ ['*', '/', '}']) =
        some (state.add [.comment (body ++ '*' :: Text.solids text)])) := by
  induction text with
  | nil =>
    constructor
    · intro body
      simp [step, stepBrace, enter, add]
    · intro body _
      simp [step, stepBrace, enter, add]
  | cons c rest induction =>
    rw [List.infix_cons_iff, not_or] at unmarked
    obtain ⟨inside, afterStar⟩ := induction unmarked.2
    by_cases star : c ≠ '*'
    · cases blank : isBlank c with
      | true =>
        have slash : c ≠ '/' := ne_of_isBlank blank (by decide)
        rw [Text.solids_cons_of_isBlank blank]
        constructor
        · intro body
          simpa [step, stepBrace, enter, star, blank] using inside body
        · intro body _
          simpa [step, stepBrace, enter, star, slash, blank] using inside (body ++ ['*'])
      | false =>
        rw [Text.solids_cons_of_solid blank]
        constructor
        · intro body
          simpa [step, stepBrace, enter, star, blank] using inside (body ++ [c])
        · intro body notSlash
          have slash : c ≠ '/' := by
            rintro rfl
            exact notSlash rfl
          simpa [step, stepBrace, enter, star, slash, blank] using inside (body ++ ['*', c])
    · -- A star is held back until the next character, which cannot complete an end mark.
      obtain rfl : c = '*' := Decidable.not_not.mp star
      have slash : rest.head? ≠ some '/' := by
        intro slash
        apply unmarked.1
        obtain ⟨more, rfl⟩ := List.head?_eq_some_iff.mp slash
        exact List.prefix_append ['*', '/'] more
      rw [Text.solids_cons_of_solid (by decide)]
      constructor
      · intro body
        simpa [step, stepBrace, enter] using afterStar body slash
      · intro body _
        simpa [step, stepBrace, enter] using afterStar (body ++ ['*']) slash

/-- A comment is read as one comment with the text it was made from, up to white space. -/
theorem run_comment (content : state.mode = .content) (text : Text) :
    state.run (Passage.comment text) = some (state.add [.comment (Text.solids text)]) := by
  have read := (@run_commentBody state (Passage.unmarked text)
    (Passage.not_infix_unmarked text)).1 []
  rw [Passage.solids_unmarked, List.nil_append] at read
  rw [← read]
  simp [Passage.comment, Passage.unmarked, step, stepBrace, enter, content]

end State

end Reader

end HtmlJsx
