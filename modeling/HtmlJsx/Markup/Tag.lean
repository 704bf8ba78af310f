import HtmlJsx.Markup.Reference
import HtmlJsx.Text.Blank

/-!
# Tags

How the inside of a start tag is read: the name, then attributes separated
by blanks and slashes.  The reader never fails on odd input.  An attribute
may follow a quoted value directly; a quote that is never closed does not
open a value; signs of equality may be repeated.

Each step returns the text that is left, together with the last character
it passed, because an attribute can only begin after a blank, a slash or a
quote.
-/

namespace HtmlJsx.Tag

/-- A place inside a tag: the character just passed and the text that is left. -/
structure Place where
  passed : Char
  rest : Text

/-- Whether a character may belong to an element name. -/
def isNameChar (c : Char) : Bool :=
  !(c == '\t' || c == '\n' || c == '\r' || c.toNat == 12 || c == ' ' || c == '/' || c == '>' ||
    c.toNat == 0)

/-- Whether an attribute may begin after a character. -/
def isBoundary (c : Char) : Bool :=
  c == '\'' || c == '"' || c == '/' || isBlank c

/-- Whether an attribute name may begin with a character. -/
def startsName (c : Char) : Bool :=
  !(isBlank c || c == '/' || c == '>')

/-- Whether an attribute name may continue with a character. -/
def continuesName (c : Char) : Bool :=
  !(isBlank c || c == '/' || c == '=' || c == '>')

/-- Whether an unquoted value may contain a character. -/
def isBareValueChar (c : Char) : Bool :=
  !(c == '>' || isBlank c)

/-- Pass blanks and slashes, except a slash right before the end of the tag. -/
def skipGap (passed : Char) : Text → Place
  | [] => ⟨passed, []⟩
  | c :: rest =>
    if isBlank c || (c == '/' && rest.head? != some '>') then
      skipGap c rest
    else
      ⟨passed, c :: rest⟩

/-- The last character of a text that follows another character. -/
def lastOf (passed : Char) (text : Text) : Char :=
  text.getLast?.getD passed

/-- An unquoted value and the place after it. -/
def bareValue (passed : Char) (source : Text) : Text × Place :=
  let value := source.takeWhile isBareValueChar
  (value, ⟨lastOf passed value, source.dropWhile isBareValueChar⟩)

/--
The value that follows signs of equality and blanks.  A quote that is never
closed does not open a value: after blanks the value is empty, after
several signs the last of them begins it, and after a single sign there is
no value.
-/
def valueAfter? (signs blanks source : Text) : Option (Text × Place) :=
  match source with
  | [] => some (bareValue (lastOf '=' blanks) source)
  | mark :: rest =>
    if mark = '"' ∨ mark = '\'' then
      match Text.cut mark rest with
      | some (inside, after) => some (inside, ⟨mark, after⟩)
      | none =>
        if !blanks.isEmpty then
          some ([], ⟨lastOf '=' blanks, source⟩)
        else if 1 < signs.length then
          let (value, after) := bareValue '=' source
          some ('=' :: value, after)
        else
          none
    else
      some (bareValue (lastOf '=' blanks) source)

/-- The value of an attribute, not yet resolved, after its name; there is none without a sign. -/
def value? (text : Text) : Option (Text × Place) :=
  let unspaced := text.dropWhile isBlank
  let signs := unspaced.takeWhile (· == '=')
  let afterSigns := unspaced.dropWhile (· == '=')
  if signs.isEmpty then
    none
  else
    valueAfter? signs (afterSigns.takeWhile isBlank) (afterSigns.dropWhile isBlank)

/-- The attribute at a place: its name, its value, and the place of the next one. -/
def attribute? (place : Place) : Option (Text × Text × Place) :=
  match place.rest with
  | [] => none
  | first :: more =>
    if isBoundary place.passed && startsName first then
      let ending := more.takeWhile continuesName
      let rest := more.dropWhile continuesName
      match value? rest with
      | some (value, after) => some (first :: ending, value, skipGap after.passed after.rest)
      | none => some (first :: ending, [], skipGap (lastOf first ending) rest)
    else
      none

theorem length_skipGap (passed : Char) (text : Text) :
    (skipGap passed text).rest.length ≤ text.length := by
  induction text generalizing passed with
  | nil => simp [skipGap]
  | cons c rest ih =>
    unfold skipGap
    split
    · exact Nat.le_succ_of_le (ih c)
    · exact Nat.le_refl _

theorem length_dropWhile (accepts : Char → Bool) (text : Text) :
    (text.dropWhile accepts).length ≤ text.length :=
  (List.dropWhile_sublist accepts).length_le

theorem length_valueAfter? {signs blanks source value : Text} {after : Place}
    (found : valueAfter? signs blanks source = some (value, after)) :
    after.rest.length ≤ source.length := by
  unfold valueAfter? at found
  split at found
  · obtain ⟨rfl, rfl⟩ := Prod.mk.inj (Option.some.inj found)
    exact length_dropWhile _ _
  · split at found
    · split at found
      · next inside rest cutFound =>
        obtain ⟨rfl, rfl⟩ := Prod.mk.inj (Option.some.inj found)
        exact Nat.le_succ_of_le (Nat.le_of_lt (Text.length_of_cut cutFound))
      · split at found
        · obtain ⟨rfl, rfl⟩ := Prod.mk.inj (Option.some.inj found)
          exact Nat.le_refl _
        · split at found
          · obtain ⟨rfl, rfl⟩ := Prod.mk.inj (Option.some.inj found)
            exact length_dropWhile _ _
          · cases found
    · obtain ⟨rfl, rfl⟩ := Prod.mk.inj (Option.some.inj found)
      exact length_dropWhile _ _

theorem length_value? {text value : Text} {after : Place}
    (found : value? text = some (value, after)) :
    after.rest.length ≤ text.length := by
  unfold value? at found
  dsimp only at found
  split at found
  · cases found
  · exact Nat.le_trans (length_valueAfter? found) <| Nat.le_trans (length_dropWhile _ _) <|
      Nat.le_trans (length_dropWhile _ _) (length_dropWhile _ _)

theorem length_attribute? {place next : Place} {name value : Text}
    (found : attribute? place = some (name, value, next)) :
    next.rest.length < place.rest.length := by
  unfold attribute? at found
  split at found
  · cases found
  · next first more equal =>
    rw [equal, List.length_cons]
    apply Nat.lt_succ_of_le
    split at found
    · dsimp only at found
      split at found
      · next valueFound =>
        obtain ⟨-, rest⟩ := Prod.mk.inj (Option.some.inj found)
        obtain ⟨-, rfl⟩ := Prod.mk.inj rest
        exact Nat.le_trans (length_skipGap _ _) <|
          Nat.le_trans (length_value? valueFound) (length_dropWhile _ _)
      · obtain ⟨-, rest⟩ := Prod.mk.inj (Option.some.inj found)
        obtain ⟨-, rfl⟩ := Prod.mk.inj rest
        exact Nat.le_trans (length_skipGap _ _) (length_dropWhile _ _)
    · cases found

/-- The attributes from a place on, as they are written, and the text after them. -/
def attributesFrom (place : Place) : List (Text × Text) × Text :=
  match _found : attribute? place with
  | none => ([], place.rest)
  | some (name, value, next) =>
    let tail := attributesFrom next
    ((name, value) :: tail.1, tail.2)
termination_by place.rest.length
decreasing_by exact length_attribute? _found

theorem length_attributesFrom (place : Place) :
    (attributesFrom place).2.length ≤ place.rest.length := by
  fun_induction attributesFrom place with
  | case1 place found => exact Nat.le_refl _
  | case2 place name value next found tail ih =>
    exact Nat.le_trans ih (Nat.le_of_lt (length_attribute? found))

/-- The inside of a tag as it is written: name, attributes, and the text after them. -/
structure Body where
  name : Text
  attributes : List (Text × Text)
  rest : Text

/-- Read the inside of a tag from the first letter of its name on. -/
def body (text : Text) : Body :=
  let name := text.takeWhile isNameChar
  let (attributes, rest) :=
    attributesFrom (skipGap (lastOf '<' name) (text.dropWhile isNameChar))
  ⟨name, attributes, rest⟩

theorem length_body (text : Text) : (body text).rest.length ≤ text.length :=
  Nat.le_trans (length_attributesFrom _) <|
    Nat.le_trans (length_skipGap _ _) (length_dropWhile _ _)

/-- Lower the case of the names and resolve the references of the values. -/
def resolveAttributes : List (Text × Text) → Except MarkupFault Attributes
  | [] => .ok []
  | (name, value) :: rest => do
    let resolved ← Reference.resolve value
    let others ← resolveAttributes rest
    return (Text.lower name, resolved) :: others

end HtmlJsx.Tag
