import HtmlJsx.Dom.Builder
import HtmlJsx.Markup.Lexer

/-!
# Feeding markup to a builder

The tokens of a text depend on how it is cut into runs of characters, but what
they do to a tree under construction does not: two runs of characters in a row
have the effect of one.  So the reading of markup is described by its effect on
a builder.  A piece of markup leads from one builder to another if reading it
before anything else is reading the rest with the other builder, and pieces
that follow each other lead on and on.
-/

namespace HtmlJsx.Lexer

theorem walk_eq (final : Bool) (mode : Mode) (text : Text) :
    walk final mode text =
      match leading? mode text with
      | none => .ok ⟨[], mode, text⟩
      | some (characters, []) => .ok ⟨run characters, mode, []⟩
      | some (characters, mark :: rest) =>
        match step final mode mark rest with
        | .error fault => .error fault
        | .ok (.halt tokens pending) => .ok ⟨run characters ++ tokens, mode, pending⟩
        | .ok (.go reading) =>
          (walk final reading.mode reading.rest).map fun others =>
            ⟨run characters ++ reading.tokens ++ others.tokens, others.mode, others.rest⟩ := by
  rw [walk]
  split
  · next found => rw [found]
  · next found => rw [found]
  · next found =>
    rw [found]
    dsimp only
    split
    · next stepped => rw [stepped]
    · next stepped => rw [stepped]
    · next stepped => rw [stepped]

/-- The effect of a reading on a builder, with the mode and the text that are left. -/
def effect (builder : Builder) (reading : Reading) : Builder × Mode × Text :=
  (reading.tokens.foldl Builder.take builder, reading.mode, reading.rest)

/-- The effect of a text on a builder, with the mode and the text that are left. -/
def feed (builder : Builder) (text : Text) : Except MarkupFault (Builder × Mode × Text) :=
  (walk false none text).map fun reading =>
    (reading.tokens.foldl Builder.take builder, reading.mode, reading.rest)

theorem feed_nil (builder : Builder) : feed builder [] = .ok (builder, none, []) := by
  rw [feed, walk_eq]
  rfl

/-- Characters that follow others go into the same run. -/
theorem foldl_run (builder : Builder) (c : Char) (characters : Text) :
    (run (c :: characters)).foldl Builder.take builder =
      (run characters).foldl Builder.take (builder.take (.text [c])) := by
  cases characters with
  | nil => rfl
  | cons d rest => simp [run, Builder.take]

/-- A character that belongs to the run at the start of a text has its own effect first. -/
theorem walk_char {mode : Mode} {c : Char} {text characters rest : Text}
    (split : leading? mode text = some (characters, rest))
    (splitLonger : leading? mode (c :: text) = some (c :: characters, rest)) (builder : Builder) :
    (walk false mode (c :: text)).map (effect builder) =
      (walk false mode text).map (effect (builder.take (.text [c]))) := by
  rw [walk_eq, walk_eq _ _ text, split, splitLonger]
  cases rest with
  | nil => simp [Except.map, effect, foldl_run]
  | cons mark rest =>
    dsimp only
    cases step false mode mark rest with
    | error fault => rfl
    | ok made =>
      cases made with
      | halt tokens pending => simp [Except.map, effect, foldl_run]
      | go reading =>
        dsimp only
        cases walk false reading.mode reading.rest with
        | error fault => rfl
        | ok others => simp [Except.map, effect, foldl_run]

theorem feed_char {c : Char} (plain : isMark c = false) (builder : Builder) (text : Text) :
    feed builder (c :: text) = feed (builder.take (.text [c])) text := by
  have longer : leading? none (c :: text) =
      some (c :: text.takeWhile (!isMark ·), text.dropWhile (!isMark ·)) := by
    simp [leading?, plain]
  exact walk_char rfl longer builder

/-- A step that is made at the start of a text has the effect of its tokens first. -/
theorem walk_step {mode : Mode} {mark : Char} {text : Text} {reading : Reading}
    (split : leading? mode (mark :: text) = some ([], mark :: text))
    (stepped : step false mode mark text = .ok (.go reading)) (builder : Builder) :
    (walk false mode (mark :: text)).map (effect builder) =
      (walk false reading.mode reading.rest).map
        (effect (reading.tokens.foldl Builder.take builder)) := by
  rw [walk_eq, split]
  dsimp only
  rw [stepped]
  dsimp only
  cases walk false reading.mode reading.rest with
  | error fault => rfl
  | ok others => simp [Except.map, effect, run]

/-- A construct that is complete has the effect of its tokens. -/
theorem feed_mark {mark : Char} (marked : isMark mark = true) {text rest : Text}
    {tokens : List Token} (stepped : step false none mark text = .ok (.go ⟨tokens, none, rest⟩))
    (builder : Builder) : feed builder (mark :: text) = feed (tokens.foldl Builder.take builder) rest := by
  have split : leading? none (mark :: text) = some ([], mark :: text) := by
    simp [leading?, marked]
  exact walk_step split stepped builder

/-- Reading a piece of markup leads from one builder to another. -/
def Leads (piece : Text) (before after : Builder) : Prop :=
  ∀ rest, feed before (piece ++ rest) = feed after rest

namespace Leads

theorem refl (builder : Builder) : Leads [] builder builder := by
  intro rest
  rfl

theorem trans {first second : Text} {start middle final : Builder}
    (begins : Leads first start middle) (ends : Leads second middle final) :
    Leads (first ++ second) start final := by
  intro rest
  rw [List.append_assoc, begins, ends]

theorem of_char {c : Char} (plain : isMark c = false) (builder : Builder) :
    Leads [c] builder (builder.take (.text [c])) := by
  intro rest
  exact feed_char plain builder rest

theorem of_step {mark : Char} (marked : isMark mark = true) {piece : Text} {tokens : List Token}
    (stepped : ∀ rest, step false none mark (piece ++ rest) = .ok (.go ⟨tokens, none, rest⟩))
    (builder : Builder) : Leads (mark :: piece) builder (tokens.foldl Builder.take builder) := by
  intro rest
  exact feed_mark marked (stepped rest) builder

end Leads

/-- A text whose effect leaves nothing is read to its end in the first walk. -/
theorem tokens_of_feed {text : Text} {builder : Builder}
    (fed : feed {} text = .ok (builder, none, [])) :
    ∃ found, tokens text = .ok found ∧ found.foldl Builder.take {} = builder := by
  rw [feed] at fed
  cases walked : walk false none text with
  | error fault =>
    rw [walked] at fed
    cases fed
  | ok reading =>
    rw [walked] at fed
    obtain ⟨found, mode, rest⟩ := reading
    injection fed with fed
    obtain ⟨built, ended⟩ := Prod.mk.inj fed
    obtain ⟨rfl, rfl⟩ := Prod.mk.inj ended
    refine ⟨found, ?_, built⟩
    rw [tokens, walked]
    change (walk true none [] >>= _) = _
    rw [walk_eq]
    simp [leading?, run, bind, Except.bind, pure, Except.pure]

/-- The tokens of a text that leads to a builder are read to its end. -/
theorem tokens_of_leads {text : Text} {builder : Builder} (leads : Leads text {} builder) :
    ∃ found, tokens text = .ok found ∧ found.foldl Builder.take {} = builder := by
  have fed := leads []
  rw [List.append_nil, feed_nil] at fed
  exact tokens_of_feed fed

end HtmlJsx.Lexer
