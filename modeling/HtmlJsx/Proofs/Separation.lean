import HtmlJsx.Text.Basic

/-!
# Splitting texts

A text is split into pieces wherever a separator stands.  No piece holds the
separator, and texts without it are the pieces of what they are joined to.
-/

namespace HtmlJsx.Text

theorem exists_pieces (separator : Char) (text : Text) :
    ∃ part others, pieces separator text = part :: others := by
  cases text with
  | nil => exact ⟨[], [], rfl⟩
  | cons c rest =>
    rw [pieces]
    split
    · exact ⟨_, _, rfl⟩
    · split
      · exact ⟨_, _, rfl⟩
      · exact ⟨_, _, rfl⟩

theorem pieces_cons_of_ne {separator c : Char} (other : c ≠ separator) {rest part : Text}
    {others : List Text} (cut : pieces separator rest = part :: others) :
    pieces separator (c :: rest) = (c :: part) :: others := by
  rw [pieces, if_neg other, cut]

theorem pieces_append (separator : Char) (left right : Text) :
    pieces separator (left ++ separator :: right) =
      pieces separator left ++ pieces separator right := by
  induction left with
  | nil => simp [pieces]
  | cons c rest induction =>
    by_cases found : c = separator
    · rw [List.cons_append, pieces, if_pos found, pieces, if_pos found, induction]
      rfl
    · obtain ⟨part, others, cut⟩ := exists_pieces separator rest
      rw [cut] at induction
      rw [List.cons_append, pieces_cons_of_ne found cut, pieces_cons_of_ne found induction]
      rfl

theorem pieces_of_not_mem {separator : Char} {text : Text} (absent : separator ∉ text) :
    pieces separator text = [text] := by
  induction text with
  | nil => rfl
  | cons c rest induction =>
    rw [List.mem_cons, not_or] at absent
    exact pieces_cons_of_ne (Ne.symm absent.1) (induction absent.2)

theorem not_mem_of_mem_pieces {separator : Char} {text piece : Text}
    (member : piece ∈ pieces separator text) : separator ∉ piece := by
  induction text generalizing piece with
  | nil =>
    obtain rfl := List.mem_singleton.mp member
    exact List.not_mem_nil
  | cons c rest induction =>
    by_cases found : c = separator
    · rw [pieces, if_pos found] at member
      rcases List.mem_cons.mp member with rfl | later
      · exact List.not_mem_nil
      · exact induction later
    · obtain ⟨part, others, cut⟩ := exists_pieces separator rest
      rw [pieces_cons_of_ne found cut] at member
      rw [cut] at induction
      rcases List.mem_cons.mp member with rfl | later
      · rw [List.mem_cons, not_or]
        exact ⟨Ne.symm found, induction List.mem_cons_self⟩
      · exact induction (List.mem_cons_of_mem part later)

/-- Texts without the separator are the pieces of what they are joined to. -/
theorem pieces_join {separator : Char} {parts : List Text} (nonempty : parts ≠ [])
    (absent : ∀ part ∈ parts, separator ∉ part) :
    pieces separator (join [separator] parts) = parts := by
  induction parts with
  | nil => exact absurd rfl nonempty
  | cons part others induction =>
    rw [List.forall_mem_cons] at absent
    cases others with
    | nil => exact pieces_of_not_mem absent.1
    | cons next more =>
      rw [join, List.append_assoc, List.singleton_append, pieces_append,
        pieces_of_not_mem absent.1, induction (List.cons_ne_nil _ _) absent.2]
      · rfl
      · exact nofun

theorem not_mem_of_cut {mark : Char} {text before after : Text}
    (found : cut mark text = some (before, after)) : mark ∉ before := by
  induction text generalizing before with
  | nil => cases found
  | cons c rest induction =>
    rw [cut] at found
    split at found
    · cases found
      exact List.not_mem_nil
    · next other =>
      obtain ⟨⟨front, back⟩, inner, same⟩ := Option.map_eq_some_iff.mp found
      cases same
      rw [List.mem_cons, not_or]
      exact ⟨Ne.symm other, induction inner⟩

end HtmlJsx.Text
