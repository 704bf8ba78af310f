import Mathlib.Data.List.Forall2
import HtmlJsx.Proofs.Reader.Passage
import HtmlJsx.Proofs.Spelling

/-!
# Reading tags

The properties of an element are written in three forms: the bare name, a
value between double quotes, and an expression between braces.  Each form is
read to its end and no further, whatever the value of the attribute is.  So a
start tag is read as the name of the element and the names of its properties
in order.
-/

namespace HtmlJsx

/-- Replacing a single character replaces each occurrence on its own. -/
theorem Text.replace_char (c : Char) (replacement text : Text) :
    Text.replace [c] replacement text =
      text.flatMap fun d => if c = d then replacement else [d] := by
  rw [Text.replace]
  induction text with
  | nil => rfl
  | cons d rest induction =>
    rw [List.flatMap_cons, ← induction]
    by_cases same : c = d
    · simp [Text.replaceFrom, same]
    · simp [Text.replaceFrom, same]

namespace Reader

/-- Whether a text can be read as a name. -/
def isName (name : Text) : Bool :=
  !name.isEmpty && name.all isNameChar

/-- What may stand between the braces of a value. -/
inductive ExpressionBody : Text → Prop where
  | nil : ExpressionBody []
  | char {c : Char} {rest : Text} (quote : c ≠ '"') (brace : c ≠ '{') (closingBrace : c ≠ '}')
      (body : ExpressionBody rest) : ExpressionBody (c :: rest)
  | literal {inside rest : Text} (string : LiteralBody inside) (body : ExpressionBody rest) :
      ExpressionBody ('"' :: inside ++ '"' :: rest)
  | braces {inside rest : Text} (inner : ExpressionBody inside) (body : ExpressionBody rest) :
      ExpressionBody ('{' :: inside ++ '}' :: rest)

/-- Characters that open and close nothing may stand before an expression. -/
theorem ExpressionBody.plain_append {text rest : Text}
    (plain : ∀ c ∈ text, c ≠ '"' ∧ c ≠ '{' ∧ c ≠ '}') (body : ExpressionBody rest) :
    ExpressionBody (text ++ rest) := by
  induction text with
  | nil => exact body
  | cons c text induction =>
    obtain ⟨quote, brace, closingBrace⟩ := plain c List.mem_cons_self
    apply ExpressionBody.char quote brace closingBrace
    exact induction fun d member => plain d (List.mem_cons_of_mem c member)

/-- How a property with a name may be written. -/
inductive PropertyText (name : Text) : Text → Prop where
  | bare : PropertyText name name
  | quoted {value : Text} (plain : '"' ∉ value) :
      PropertyText name (name ++ ('=' :: '"' :: value ++ ['"']))
  | expression {body : Text} (balanced : ExpressionBody body) :
      PropertyText name (name ++ ('=' :: '{' :: body ++ ['}']))

/-- Whether a place in a start tag is the end of a name or a value. -/
def TagPlace.isWordEnd : TagPlace → Bool
  | .name => true
  | .property _ => true
  | .valued => true
  | _ => false

/-- The names of the properties that are known at the end of a name or a value. -/
def TagPlace.known (properties : List Text) : TagPlace → List Text
  | .property word => properties ++ [word]
  | _ => properties

namespace State

variable {state : State} {element : Text} {properties : List Text}

/-- The reader has read the names of an element and of its properties, up to the end of a word. -/
def HasRead (state : State) (element : Text) (names : List Text) (next : State) : Prop :=
  ∃ properties place, place.isWordEnd = true ∧ place.known properties = names ∧
    next = state.enter (.startTag element properties place)

theorem HasRead.step_blank {names : List Text} {next : State}
    (read : HasRead state element names next) {c : Char} (blank : isBlank c = true) :
    next.step c = some (state.enter (.startTag element names .gap)) := by
  obtain ⟨properties, place, wordEnd, rfl, rfl⟩ := read
  rw [step_of_isBlank blank]
  cases place with
  | name => rfl
  | property word => rfl
  | valued => rfl
  | _ => cases wordEnd

theorem HasRead.step_bracket {names : List Text} {next : State}
    (read : HasRead state element names next) :
    next.step '>' = some (state.descend element names) := by
  obtain ⟨properties, place, wordEnd, rfl, rfl⟩ := read
  cases place with
  | name => rfl
  | property word => rfl
  | valued => rfl
  | _ => cases wordEnd

/-- The end of a word is not the end of a blank. -/
theorem HasRead.not_settled {names : List Text} {next : State}
    (read : HasRead state element names next) : ¬ next.Settled := by
  obtain ⟨properties, place, wordEnd, rfl, rfl⟩ := read
  intro settled
  cases place with
  | name => cases settled
  | property word => simp [Settled, enter, Mode.afterBlank, TagPlace.afterBlank] at settled
  | valued => cases settled
  | _ => cases wordEnd

/-! ## Names -/

/-- A mode that collects the characters of a name collects a word as a whole. -/
theorem run_word {collecting : Text → Mode}
    (collects : ∀ (start : Text) (c : Char), isNameChar c = true →
      (state.enter (collecting start)).step c = some (state.enter (collecting (start ++ [c]))))
    {word : Text} (named : word.all isNameChar = true) (start rest : Text) :
    (state.enter (collecting start)).run (word ++ rest) =
      (state.enter (collecting (start ++ word))).run rest := by
  induction word generalizing start with
  | nil => simp
  | cons c word induction =>
    rw [List.all_cons, Bool.and_eq_true] at named
    rw [List.append_cons start, ← induction named.2, List.cons_append, run_cons,
      collects start c named.1, Option.bind_some]

/-- A name is collected as a whole by a mode that another one enters at its first character. -/
theorem run_name {before : Mode} {collecting : Text → Mode}
    (begins : ∀ c : Char, isNameChar c = true →
      (state.enter before).step c = some (state.enter (collecting [c])))
    (collects : ∀ (start : Text) (c : Char), isNameChar c = true →
      (state.enter (collecting start)).step c = some (state.enter (collecting (start ++ [c]))))
    {name : Text} (named : isName name = true) (rest : Text) :
    (state.enter before).run (name ++ rest) = (state.enter (collecting name)).run rest := by
  rw [isName, Bool.and_eq_true] at named
  cases name with
  | nil => exact absurd named.1 (by decide)
  | cons c word =>
    rw [List.all_cons, Bool.and_eq_true] at named
    rw [List.cons_append, run_cons, begins c named.2.1, Option.bind_some,
      run_word collects named.2.2, List.singleton_append]

theorem run_propertyName {name : Text} (named : isName name = true) (rest : Text) :
    (state.enter (.startTag element properties .gap)).run (name ++ rest) =
      (state.enter (.startTag element properties (.property name))).run rest := by
  apply run_name _ _ named
  · intro c nameChar
    simp [step, stepTag, enter, nameChar]
  · intro start c nameChar
    simp [step, stepTag, enter, nameChar]

theorem run_elementName {name : Text} (named : isName name = true) (rest : Text) :
    (state.enter .bracket).run (name ++ rest) =
      (state.enter (.startTag name [] .name)).run rest := by
  apply @run_name state .bracket (fun name => .startTag name [] .name) _ _ name named
  · intro c nameChar
    have slash : c ≠ '/' := by
      rintro rfl
      exact absurd nameChar (by decide)
    simp [step, enter, nameChar, slash]
  · intro start c nameChar
    simp [step, stepTag, enter, nameChar]

/-! ## Values -/

theorem run_quoted {value : Text} (plain : '"' ∉ value) (rest : Text) :
    (state.enter (.startTag element properties .quoted)).run (value ++ rest) =
      (state.enter (.startTag element properties .quoted)).run rest := by
  induction value with
  | nil => rfl
  | cons c value induction =>
    rw [List.mem_cons, not_or] at plain
    rw [← induction plain.2]
    simp [step, stepTag, enter, Ne.symm plain.1]

theorem run_literal {body : Text} (string : LiteralBody body) (depth : Nat) (rest : Text) :
    (state.enter (.startTag element properties (.literal depth))).run (body ++ rest) =
      (state.enter (.startTag element properties (.literal depth))).run rest := by
  induction string with
  | nil => rfl
  | char quote backslash _ induction =>
    rw [← induction]
    simp [step, stepTag, enter, quote, backslash]
  | escape _ induction =>
    rw [← induction]
    simp [step, stepTag, enter]

/-- An expression is read up to a brace of its own depth. -/
theorem run_expressionBody {body : Text} (balanced : ExpressionBody body) (depth : Nat)
    (rest : Text) :
    (state.enter (.startTag element properties (.expression depth))).run (body ++ rest) =
      (state.enter (.startTag element properties (.expression depth))).run rest := by
  induction balanced generalizing depth rest with
  | nil => rfl
  | char quote brace closingBrace _ induction =>
    rw [← induction depth rest]
    simp [step, stepTag, enter, quote, brace, closingBrace]
  | @literal inside after string _ induction =>
    have read := @run_literal state element properties inside string depth ('"' :: (after ++ rest))
    rw [← induction depth rest]
    simpa [step, stepTag, enter] using read
  | @braces inside after _ _ inner outer =>
    have read := inner (depth + 1) ('}' :: (after ++ rest))
    rw [← outer depth rest]
    simpa [step, stepTag, enter] using read

/-! ## Start tags -/

/-- A property is read as its name, whichever form it has. -/
theorem HasRead.run_property {names : List Text} {next : State}
    (read : HasRead state element names next) {name text : Text} (named : isName name = true)
    (written : PropertyText name text) :
    ∃ after, next.run (' ' :: text) = some after ∧
      HasRead state element (names ++ [name]) after := by
  rw [run_cons, read.step_blank (by decide), Option.bind_some]
  cases written with
  | bare =>
    have ran := @run_propertyName state element names name named []
    rw [List.append_nil] at ran
    exact ⟨_, ran, names, .property name, rfl, rfl, rfl⟩
  | @quoted value plain =>
    refine ⟨_, ?_, names ++ [name], .valued, rfl, rfl, rfl⟩
    have ran := @run_quoted state element (names ++ [name]) value plain ['"']
    rw [run_propertyName named]
    simpa [step, stepTag, enter, isNameChar] using ran
  | @expression body balanced =>
    refine ⟨_, ?_, names ++ [name], .valued, rfl, rfl, rfl⟩
    have ran := @run_expressionBody state element (names ++ [name]) body balanced 0 ['}']
    rw [run_propertyName named]
    simpa [step, stepTag, enter, isNameChar] using ran

/-- Properties are read as their names in order. -/
theorem HasRead.run_properties {names : List Text} {next : State}
    (read : HasRead state element names next) {added texts : List Text}
    (written : List.Forall₂ PropertyText added texts)
    (named : ∀ name ∈ added, isName name = true) :
    ∃ after, next.run (texts.flatMap (' ' :: ·)) = some after ∧
      HasRead state element (names ++ added) after := by
  induction written generalizing names next with
  | nil => exact ⟨next, rfl, by simpa using read⟩
  | @cons name text added texts first _ induction =>
    obtain ⟨middle, ran, middleRead⟩ :=
      read.run_property (named name List.mem_cons_self) first
    obtain ⟨after, rest, afterRead⟩ :=
      induction middleRead fun other member => named other (List.mem_cons_of_mem name member)
    refine ⟨after, ?_, by simpa using afterRead⟩
    rw [List.flatMap_cons, run_append, ran]
    exact rest

/-- A start tag is read as the names of its element and of its properties. -/
theorem run_startTag (content : state.mode = .content) {names texts : List Text}
    (elementNamed : isName element = true) (written : List.Forall₂ PropertyText names texts)
    (named : ∀ name ∈ names, isName name = true) :
    ∃ after, state.run ('<' :: (element ++ texts.flatMap (' ' :: ·))) = some after ∧
      HasRead state element names after := by
  have begun : HasRead state element [] (state.enter (.startTag element [] .name)) :=
    ⟨[], .name, rfl, rfl, rfl⟩
  obtain ⟨after, ran, afterRead⟩ := begun.run_properties written named
  refine ⟨after, ?_, afterRead⟩
  have bracket : state.step '<' = some (state.enter .bracket) := by
    simp [step, content]
  rw [run_cons, bracket, Option.bind_some, run_elementName elementNamed, ran]

/-- A tag that closes itself adds an element without contents. -/
theorem HasRead.run_selfClose {names : List Text} {next : State}
    (read : HasRead state element names next) :
    next.run " />".toList = some (state.add [.element element names []]) := by
  change next.run [' ', '/', '>'] = _
  rw [run_cons, read.step_blank (by decide)]
  rfl

/-- An end tag closes the element around what was read since its start tag. -/
theorem run_endTag (named : isName element = true) (names : List Text) (inside : List Shape) :
    ((state.descend element names).add inside).run ('<' :: '/' :: element ++ ['>']) =
      some (state.add [.element element names inside]) := by
  rw [isName, Bool.and_eq_true] at named
  have read := @run_word ((state.descend element names).add inside) .endTag (by
    intro start c nameChar
    have closing : c ≠ '>' := by
      rintro rfl
      exact absurd nameChar (by decide)
    simp [step, enter, nameChar, closing]) element named.2 [] ['>']
  simpa [step, enter, add, descend, close?] using read

end State

end Reader

end HtmlJsx
