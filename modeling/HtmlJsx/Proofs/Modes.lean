import HtmlJsx.Proofs.Lexing
import HtmlJsx.Proofs.Outcome

/-!
# Which tokens come in which mode

What stands in a `script` or `style` element is characters up to the matching
end tag; the mode of the lexer says whose content it reads.  The order in which
tokens can come is that of a machine whose states are the modes.  This module
shows that the machine accepts the tokens of every text: each construct, each
step and each walk follows it.
-/

namespace HtmlJsx.Lexer

open Outcome

/-- The mode after a token; `none` if the token cannot come in the mode before it. -/
def modeAfter? : Mode → Token → Option Mode
  | mode, .text _ => some mode
  | none, .start name _ => some (if rawElements.contains name then some name else none)
  | none, _ => some none
  | some name, .stop other => if other = name then some none else none
  | some _, _ => none

/-- Tokens can come one after the other, from one mode to another. -/
def Passes (before : Mode) (tokens : List Token) (after : Mode) : Prop :=
  tokens.foldlM modeAfter? before = some after

namespace Passes

theorem nil (mode : Mode) : Passes mode [] mode := rfl

theorem text (mode : Mode) (characters : Text) : Passes mode [.text characters] mode := by
  cases mode <;> rfl

theorem run (mode : Mode) (characters : Text) : Passes mode (run characters) mode := by
  rw [Lexer.run]
  split
  · exact nil mode
  · exact text mode characters

theorem append {before middle after : Mode} {first second : List Token}
    (begins : Passes before first middle) (ends : Passes middle second after) :
    Passes before (first ++ second) after := by
  rw [Passes, List.foldlM_append, show first.foldlM modeAfter? before = some middle from begins]
  exact ends

end Passes

theorem passes_startTag? {text : Text} {reading : Reading}
    (found : startTag? text = .ok (some reading)) : Passes none reading.tokens reading.mode := by
  unfold startTag? at found
  dsimp only at found
  split at found
  · cases found
  · obtain ⟨attributes, -, read⟩ := map_eq_ok_iff.mp found
    cases read
    rfl
  · obtain ⟨attributes, -, read⟩ := map_eq_ok_iff.mp found
    cases read
    rfl
  · split at found
    · cases found
    · obtain ⟨attributes, -, read⟩ := map_eq_ok_iff.mp found
      cases read
      rfl

theorem passes_bogusComment? {text : Text} {reading : Reading}
    (found : bogusComment? text = some reading) : Passes none reading.tokens reading.mode := by
  obtain ⟨parts, -, rfl⟩ := Option.map_eq_some_iff.mp found
  rfl

/-- In raw content an end tag is characters, unless it is the one that ends the content. -/
theorem passes_endTag? {mode : Mode} {text : Text} {reading : Reading}
    (found : endTag? mode text = some reading) : Passes mode reading.tokens reading.mode := by
  unfold endTag? at found
  split at found
  · cases found
  · dsimp only at found
    split at found
    · next name named =>
      split at found
      · cases found
        exact .text mode _
      · next matching =>
        cases found
        cases mode with
        | none => rfl
        | some raw =>
          have same : raw = Text.lower name := by simpa using matching
          simp [Passes, modeAfter?, same]
    · split at found
      · cases found
        exact .text mode _
      · next plain =>
        obtain rfl : mode = none := by simpa using plain
        split at found
        · cases found
        · split at found
          · cases found
            rfl
          · split at found
            · cases found
              rfl
            · exact passes_bogusComment? found

theorem passes_markedSection? {text : Text} {reading : Reading}
    (found : markedSection? text = .ok (some reading)) :
    Passes none reading.tokens reading.mode := by
  have token (content : Text) : Passes none [sectionToken content] none := by
    rw [sectionToken]
    split <;> rfl
  unfold markedSection? at found
  split at found
  · cases found
  · split at found
    · dsimp only at found
      split at found
      · cases found
      · split at found
        · obtain ⟨parts, -, rfl⟩ := Option.map_eq_some_iff.mp (Except.ok.inj found)
          exact token parts.1
        · split at found
          · obtain ⟨parts, -, rfl⟩ := Option.map_eq_some_iff.mp (Except.ok.inj found)
            exact token parts.1
          · cases found
    · cases found

theorem passes_declaration? {text : Text} {reading : Reading}
    (found : declaration? text = .ok (some reading)) :
    Passes none reading.tokens reading.mode := by
  unfold declaration? at found
  split at found
  · obtain ⟨parts, -, rfl⟩ := Option.map_eq_some_iff.mp (Except.ok.inj found)
    rfl
  · exact passes_markedSection? found
  · split at found
    · obtain ⟨parts, -, rfl⟩ := Option.map_eq_some_iff.mp (Except.ok.inj found)
      rfl
    · exact passes_bogusComment? (Except.ok.inj found)

theorem passes_construct? {text : Text} {reading : Reading}
    (found : construct? none text = .ok (some reading)) :
    Passes none reading.tokens reading.mode := by
  unfold construct? at found
  split at found
  · cases found
  · exact passes_endTag? (Except.ok.inj found)
  · obtain ⟨parts, -, rfl⟩ := Option.map_eq_some_iff.mp (Except.ok.inj found)
    rfl
  · exact passes_declaration? found
  · split at found
    · exact passes_startTag? found
    · cases found
      rfl

theorem passes_giveUp (mode : Mode) (text : Text) :
    Passes mode (giveUp mode text).tokens (giveUp mode text).mode := by
  unfold giveUp
  split
  · exact .text mode _
  · split
    · exact .text mode _
    · exact .text mode _

/-- Where a walk makes a step: anywhere, but in raw content only at an end tag. -/
def StopsAt (mode : Mode) (mark : Char) (text : Text) : Prop :=
  mode = none ∨ mark = '<' ∧ ∃ rest, text = '/' :: rest

/-- The tokens of a step can come in the mode it is made in. -/
def Step.Follows (mode : Mode) : Step → Prop
  | .go reading => Passes mode reading.tokens reading.mode
  | .halt tokens _ => Passes mode tokens mode

theorem follows_bracketStep {final : Bool} {mode : Mode} {text : Text} {made : Step}
    (stops : StopsAt mode '<' text) (stepped : bracketStep final mode text = .ok made) :
    made.Follows mode := by
  obtain ⟨outcome, found, rfl⟩ := map_eq_ok_iff.mp stepped
  cases outcome with
  | some reading =>
    rcases stops with rfl | ⟨-, rest, rfl⟩
    · exact passes_construct? found
    · exact passes_endTag? (Except.ok.inj found)
  | none =>
    cases final with
    | true => exact passes_giveUp mode text
    | false => exact .nil mode

theorem follows_numericStep {text : Text} {made : Step} (stepped : numericStep text = .ok made) :
    made.Follows none := by
  have bad : (if text.contains ';' then Step.halt [.text ['&', '#']] text
      else .halt [] ('&' :: '#' :: text)).Follows none := by
    split <;> rfl
  unfold numericStep at stepped
  dsimp only at stepped
  split at stepped
  · cases stepped
    exact bad
  · split at stepped
    · cases stepped
      exact bad
    · split at stepped
      · cases stepped
        exact bad
      · obtain ⟨number, -, rfl⟩ := map_eq_ok_iff.mp stepped
        rfl

theorem follows_ampersandStep {final : Bool} {text : Text} {made : Step}
    (stepped : ampersandStep final text = .ok made) : made.Follows none := by
  unfold ampersandStep at stepped
  split at stepped
  · cases stepped
    rfl
  · exact follows_numericStep stepped
  · split at stepped
    · split at stepped
      · cases stepped
        rfl
      · cases stepped
        rfl
    · cases stepped
      rfl

theorem follows_step {final : Bool} {mode : Mode} {mark : Char} {text : Text} {made : Step}
    (stops : StopsAt mode mark text) (stepped : step final mode mark text = .ok made) :
    made.Follows mode := by
  unfold step at stepped
  split at stepped
  · next bracket =>
    subst bracket
    exact follows_bracketStep stops stepped
  · next other =>
    obtain rfl : mode = none := stops.resolve_right fun raw => other raw.1
    exact follows_ampersandStep stepped

theorem holds_of_splitAt? {test : Text → Bool} {text before after : Text}
    (found : splitAt? test text = some (before, after)) : test after = true := by
  induction text generalizing before with
  | nil => cases found
  | cons c rest induction =>
    unfold splitAt? at found
    split at found
    · next holds =>
      cases found
      exact holds
    · obtain ⟨parts, inner, equal⟩ := Option.map_eq_some_iff.mp found
      cases equal
      exact induction inner

theorem stopsAt_of_leading? {mode : Mode} {text characters rest : Text} {mark : Char}
    (found : leading? mode text = some (characters, mark :: rest)) : StopsAt mode mark rest := by
  cases mode with
  | none => exact .inl rfl
  | some name =>
    have begins := holds_of_splitAt? found
    unfold beginsRawEnd at begins
    split at begins
    · next more shape =>
      cases shape
      exact .inr ⟨rfl, more, rfl⟩
    · cases begins

/-- The tokens of a walk can come one after the other. -/
theorem passes_walk {final : Bool} {mode : Mode} {text : Text} {reading : Reading}
    (walked : walk final mode text = .ok reading) : Passes mode reading.tokens reading.mode := by
  induction mode, text using walk.induct final generalizing reading with
  | case1 mode text unfinished =>
    rw [walk_eq, unfinished] at walked
    cases walked
    exact .nil mode
  | case2 mode text characters ended =>
    rw [walk_eq, ended] at walked
    cases walked
    exact .run mode characters
  | case3 mode text characters mark rest found fault stepped =>
    rw [walk_eq, found] at walked
    simp only [stepped] at walked
    cases walked
  | case4 mode text characters mark rest found tokens pending stepped =>
    rw [walk_eq, found] at walked
    simp only [stepped] at walked
    cases walked
    exact (Passes.run mode characters).append (follows_step (stopsAt_of_leading? found) stepped)
  | case5 mode text characters mark rest found step stepped induction =>
    rw [walk_eq, found] at walked
    simp only [stepped] at walked
    obtain ⟨others, walkedOn, rfl⟩ := map_eq_ok_iff.mp walked
    have begins : Passes mode step.tokens step.mode :=
      follows_step (stopsAt_of_leading? found) stepped
    exact ((Passes.run mode characters).append begins).append (induction walkedOn)

/-- The tokens of a text can come one after the other. -/
theorem passes_tokens {text : Text} {found : List Token} (read : tokens text = .ok found) :
    ∃ mode, Passes none found mode := by
  obtain ⟨first, walkedFirst, read⟩ := bind_eq_ok_iff.mp read
  obtain ⟨second, walkedSecond, read⟩ := bind_eq_ok_iff.mp read
  obtain rfl := Except.ok.inj read
  refine ⟨second.mode, ((passes_walk walkedFirst).append (passes_walk walkedSecond)).append ?_⟩
  split
  · exact .run second.mode second.rest
  · exact .nil second.mode

end HtmlJsx.Lexer
