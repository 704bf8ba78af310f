/-!
# Text as characters

Markup is read and written one character at a time, so a text is the list
of its characters.  This file holds the operations on such lists that the
rest of the library shares: cutting, splitting, repeating and replacing.
-/

namespace HtmlJsx

/-- A text is the list of its characters. -/
abbrev Text := List Char

namespace Text

/-- Whether `haystack` ends with the non-empty text `needle`. -/
def endsWith (haystack needle : Text) : Bool :=
  !needle.isEmpty && needle.isSuffixOf haystack

/-- Remove one trailing `needle`; a text that does not end with it is kept. -/
def trimSuffix (haystack needle : Text) : Text :=
  if endsWith haystack needle then
    haystack.take (haystack.length - needle.length)
  else
    haystack

/-- The concatenation of `count` copies of `unit`. -/
def copies (count : Nat) (unit : Text) : Text :=
  (List.replicate count unit).flatten

/-- The parts of a text between its separators; there is always one more part than separators. -/
def pieces (separator : Char) : Text → List Text
  | [] => [[]]
  | c :: rest =>
    if c = separator then
      [] :: pieces separator rest
    else
      match pieces separator rest with
      | [] => [[c]]
      | part :: parts => (c :: part) :: parts

/-- Cut a text at its first `mark`: what stands before it and what stands after it. -/
def cut (mark : Char) : Text → Option (Text × Text)
  | [] => none
  | c :: rest =>
    if c = mark then
      some ([], rest)
    else
      (cut mark rest).map fun (before, after) => (c :: before, after)

/-- A cut loses nothing but the mark. -/
theorem eq_of_cut {mark : Char} {text before after : Text}
    (found : cut mark text = some (before, after)) : text = before ++ mark :: after := by
  induction text generalizing before with
  | nil => simp [cut] at found
  | cons c rest ih =>
    by_cases isMark : c = mark
    · simp [cut, isMark] at found
      simp [isMark, found.1.symm, found.2]
    · simp only [cut, isMark, if_false, Option.map_eq_some_iff] at found
      obtain ⟨⟨front, back⟩, inner, equal⟩ := found
      obtain ⟨rfl, rfl⟩ := Prod.mk.inj equal
      simp [ih inner]

/-- What follows the mark is shorter than the text. -/
theorem length_of_cut {mark : Char} {text before after : Text}
    (found : cut mark text = some (before, after)) : after.length < text.length := by
  rw [eq_of_cut found]
  simp only [List.length_append, List.length_cons]
  omega

/-- The parts joined with a separator between neighbours. -/
def join (separator : Text) : List Text → Text
  | [] => []
  | [part] => part
  | part :: parts => part ++ separator ++ join separator parts

/--
Replace the occurrences of `pattern` from left to right, passing over the
first `skip` characters, which belong to an occurrence already replaced.
-/
def replaceFrom (pattern replacement : Text) : Nat → Text → Text
  | _, [] => []
  | skip + 1, _ :: rest => replaceFrom pattern replacement skip rest
  | 0, c :: rest =>
    if pattern.isPrefixOf (c :: rest) then
      replacement ++ replaceFrom pattern replacement (pattern.length - 1) rest
    else
      c :: replaceFrom pattern replacement 0 rest

/-- Replace every non-overlapping occurrence of a non-empty pattern, from left to right. -/
def replace (pattern replacement : Text) (text : Text) : Text :=
  replaceFrom pattern replacement 0 text

/-- Whether one text occurs inside another. -/
def includes (needle : Text) : Text → Bool
  | [] => needle.isEmpty
  | c :: rest => needle.isPrefixOf (c :: rest) || includes needle rest

end Text

end HtmlJsx
