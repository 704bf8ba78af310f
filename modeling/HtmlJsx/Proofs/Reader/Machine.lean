import HtmlJsx.Proofs.Layout

/-!
# Reading JSX

A reader for the JSX that the renderer writes, one character at a time.  It
accepts start tags whose properties are bare, double-quoted or expressions in
braces, tags that close themselves, end tags, text, string expressions and
comments.  Braces inside an expression are counted, and double-quoted strings
inside it are passed over.  An end tag is accepted only if it names the
innermost open element.

The reader keeps the elements with the names of their properties, and the
comments without their white space.  Text is not kept, but a bracket or a
brace in it that opens nothing is refused.

The second half shows that the reader does not see layout: after a blank it
makes no difference how many more blanks follow.
-/

namespace HtmlJsx.Reader

/-- What is read: elements with the names of their properties, and comments. -/
inductive Shape where
  | element (name : Text) (properties : List Text) (children : List Shape)
  | comment (body : Text)
  deriving Repr

/-- A place inside a start tag. -/
inductive TagPlace where
  /-- In the name of the element. -/
  | name
  /-- After a blank. -/
  | gap
  /-- In the name of a property, of which a part has been read. -/
  | property (word : Text)
  /-- After the sign of equality. -/
  | equals
  /-- In a quoted value. -/
  | quoted
  /-- In an expression, inside some more braces. -/
  | expression (depth : Nat)
  /-- In a string of an expression. -/
  | literal (depth : Nat)
  /-- After a backslash in a string of an expression. -/
  | escape (depth : Nat)
  /-- After a value. -/
  | valued
  /-- After the slash of a tag that closes itself. -/
  | slash
  deriving Repr, DecidableEq

/-- The quotes that a string expression may have. -/
inductive Quote where
  | single
  | double
  deriving Repr, DecidableEq

/-- The character of a quote. -/
def Quote.mark : Quote → Char
  | .single => '\''
  | .double => '"'

/-- A place inside braces that stand in content. -/
inductive BracePlace where
  | opened
  /-- In a string between the given quotes. -/
  | string (quote : Quote)
  /-- After a backslash in a string. -/
  | escape (quote : Quote)
  /-- After a string. -/
  | closed
  /-- After the slash that begins a comment. -/
  | slash
  /-- In a comment, of which a part has been read. -/
  | comment (body : Text)
  /-- After a star in a comment. -/
  | star (body : Text)
  /-- After a comment. -/
  | ended (body : Text)
  deriving Repr, DecidableEq

/-- What the reader is in the middle of. -/
inductive Mode where
  | content
  /-- After an opening bracket. -/
  | bracket
  | startTag (name : Text) (properties : List Text) (place : TagPlace)
  | endTag (name : Text)
  | brace (place : BracePlace)
  deriving Repr, DecidableEq

/-- An open element, with what was read before it in the element around it. -/
structure Frame where
  name : Text
  properties : List Text
  before : List Shape
  deriving Repr

/-- The state of the reader. -/
structure State where
  mode : Mode := .content
  /-- What has been read in the innermost open element. -/
  shapes : List Shape := []
  /-- The open elements, the innermost first. -/
  opened : List Frame := []
  deriving Repr

/-- Whether a character may belong to a name. -/
def isNameChar (c : Char) : Bool :=
  !isBlank c && !"<>/=\x7b\x7d\"'".toList.contains c

namespace State

/-- Go over to another mode. -/
def enter (state : State) (mode : Mode) : State :=
  { state with mode }

/-- Add what has been read as a whole, and go on in content. -/
def add (state : State) (found : List Shape) : State :=
  { state with mode := .content, shapes := state.shapes ++ found }

theorem add_nil {state : State} (content : state.mode = .content) : state.add [] = state := by
  rw [add, List.append_nil, ← content]

theorem add_add (state : State) (left right : List Shape) :
    (state.add left).add right = state.add (left ++ right) := by
  simp [add]

/-- Go on inside an element. -/
def descend (state : State) (name : Text) (properties : List Text) : State where
  mode := .content
  shapes := []
  opened := ⟨name, properties, state.shapes⟩ :: state.opened

/-- Close the innermost open element, which must have the given name. -/
def close? (state : State) (name : Text) : Option State :=
  match state.opened with
  | [] => none
  | frame :: outer =>
    if frame.name = name then
      some ⟨.content, frame.before ++ [.element name frame.properties state.shapes], outer⟩
    else
      none

/-- What may follow a name or a value in a start tag. -/
def endWord (state : State) (name : Text) (properties : List Text) (c : Char) : Option State :=
  if isBlank c then some (state.enter (.startTag name properties .gap))
  else if c = '>' then some (state.descend name properties)
  else if c = '/' then some (state.enter (.startTag name properties .slash))
  else none

/-- Read a character in a start tag. -/
def stepTag (state : State) (name : Text) (properties : List Text) (c : Char) :
    TagPlace → Option State
  | .name =>
    if isNameChar c then some (state.enter (.startTag (name ++ [c]) properties .name))
    else state.endWord name properties c
  | .gap =>
    if isNameChar c then some (state.enter (.startTag name properties (.property [c])))
    else state.endWord name properties c
  | .property word =>
    if isNameChar c then some (state.enter (.startTag name properties (.property (word ++ [c]))))
    else if c = '=' then some (state.enter (.startTag name (properties ++ [word]) .equals))
    else state.endWord name (properties ++ [word]) c
  | .equals =>
    if c = '"' then some (state.enter (.startTag name properties .quoted))
    else if c = '{' then some (state.enter (.startTag name properties (.expression 0)))
    else none
  | .quoted =>
    if c = '"' then some (state.enter (.startTag name properties .valued))
    else some (state.enter (.startTag name properties .quoted))
  | .expression depth =>
    if c = '"' then some (state.enter (.startTag name properties (.literal depth)))
    else if c = '{' then some (state.enter (.startTag name properties (.expression (depth + 1))))
    else if c = '}' then
      some (state.enter (.startTag name properties
        (if depth = 0 then .valued else .expression (depth - 1))))
    else some (state.enter (.startTag name properties (.expression depth)))
  | .literal depth =>
    if c = '\\' then some (state.enter (.startTag name properties (.escape depth)))
    else if c = '"' then some (state.enter (.startTag name properties (.expression depth)))
    else some (state.enter (.startTag name properties (.literal depth)))
  | .escape depth => some (state.enter (.startTag name properties (.literal depth)))
  | .valued => state.endWord name properties c
  | .slash => if c = '>' then some (state.add [.element name properties []]) else none

/-- Read a character inside braces. -/
def stepBrace (state : State) (c : Char) : BracePlace → Option State
  | .opened =>
    if c = '"' then some (state.enter (.brace (.string .double)))
    else if c = '\'' then some (state.enter (.brace (.string .single)))
    else if c = '/' then some (state.enter (.brace .slash))
    else none
  | .string quote =>
    if c = '\\' then some (state.enter (.brace (.escape quote)))
    else if c = quote.mark then some (state.enter (.brace .closed))
    else some (state.enter (.brace (.string quote)))
  | .escape quote => some (state.enter (.brace (.string quote)))
  | .closed => if c = '}' then some (state.enter .content) else none
  | .slash => if c = '*' then some (state.enter (.brace (.comment []))) else none
  | .comment body =>
    if c = '*' then some (state.enter (.brace (.star body)))
    else if isBlank c then some (state.enter (.brace (.comment body)))
    else some (state.enter (.brace (.comment (body ++ [c]))))
  | .star body =>
    if c = '/' then some (state.enter (.brace (.ended body)))
    else if c = '*' then some (state.enter (.brace (.star (body ++ ['*']))))
    else if isBlank c then some (state.enter (.brace (.comment (body ++ ['*']))))
    else some (state.enter (.brace (.comment (body ++ ['*', c]))))
  | .ended body => if c = '}' then some (state.add [.comment body]) else none

/-- Read a character; `none` if it cannot stand here. -/
def step (state : State) (c : Char) : Option State :=
  match state.mode with
  | .content =>
    if c = '<' then some (state.enter .bracket)
    else if c = '{' then some (state.enter (.brace .opened))
    else if c = '>' ∨ c = '}' then none
    else some state
  | .bracket =>
    if c = '/' then some (state.enter (.endTag []))
    else if isNameChar c then some (state.enter (.startTag [c] [] .name))
    else none
  | .startTag name properties place => state.stepTag name properties c place
  | .endTag name =>
    if c = '>' then state.close? name
    else if isNameChar c then some (state.enter (.endTag (name ++ [c])))
    else none
  | .brace place => state.stepBrace c place

/-- Read a text. -/
def run (state : State) (text : Text) : Option State :=
  text.foldlM step state

end State

/-- What a whole text describes, if every element in it is closed. -/
def read (text : Text) : Option (List Shape) :=
  match State.run {} text with
  | some ⟨.content, shapes, []⟩ => some shapes
  | _ => none

/-! ## What a blank does -/

/-- The place in a start tag after a blank, with the names of the properties known then. -/
def TagPlace.afterBlank (properties : List Text) : TagPlace → Option (List Text × TagPlace)
  | .name => some (properties, .gap)
  | .gap => some (properties, .gap)
  | .property word => some (properties ++ [word], .gap)
  | .equals => none
  | .quoted => some (properties, .quoted)
  | .expression depth => some (properties, .expression depth)
  | .literal depth => some (properties, .literal depth)
  | .escape depth => some (properties, .literal depth)
  | .valued => some (properties, .gap)
  | .slash => none

/-- The place inside braces after a blank. -/
def BracePlace.afterBlank : BracePlace → Option BracePlace
  | .string quote => some (.string quote)
  | .escape quote => some (.string quote)
  | .comment body => some (.comment body)
  | .star body => some (.comment (body ++ ['*']))
  | _ => none

/-- The mode after a blank. -/
def Mode.afterBlank : Mode → Option Mode
  | .content => some .content
  | .startTag name properties place =>
    (place.afterBlank properties).map fun (known, place) => .startTag name known place
  | .brace place => place.afterBlank.map .brace
  | _ => none

/-- A second blank changes nothing. -/
theorem Mode.afterBlank_idem {mode after : Mode} (blank : mode.afterBlank = some after) :
    after.afterBlank = some after := by
  cases mode with
  | content =>
    cases blank
    rfl
  | bracket => cases blank
  | startTag name properties place =>
    cases place <;> cases blank <;> rfl
  | endTag name => cases blank
  | brace place =>
    cases place <;> cases blank <;> rfl

/-- Content is reached by a blank only from content. -/
theorem Mode.eq_content_of_afterBlank {mode : Mode} (blank : mode.afterBlank = some .content) :
    mode = .content := by
  cases mode with
  | content => rfl
  | bracket => cases blank
  | startTag name properties place =>
    cases place <;> cases blank
  | endTag name => cases blank
  | brace place =>
    cases place <;> cases blank

namespace State

theorem isNameChar_of_isBlank {c : Char} (blank : isBlank c = true) : isNameChar c = false := by
  simp [isNameChar, blank]

/-- What a blank does depends on the mode alone, and it changes nothing else. -/
theorem step_of_isBlank {c : Char} (blank : isBlank c = true) (state : State) :
    state.step c = state.mode.afterBlank.map state.enter := by
  have noName := isNameChar_of_isBlank blank
  have bracket : c ≠ '<' := ne_of_isBlank blank (by decide)
  have closing : c ≠ '>' := ne_of_isBlank blank (by decide)
  have brace : c ≠ '{' := ne_of_isBlank blank (by decide)
  have closingBrace : c ≠ '}' := ne_of_isBlank blank (by decide)
  have quote : c ≠ '"' := ne_of_isBlank blank (by decide)
  have apostrophe : c ≠ '\'' := ne_of_isBlank blank (by decide)
  have backslash : c ≠ '\\' := ne_of_isBlank blank (by decide)
  have slash : c ≠ '/' := ne_of_isBlank blank (by decide)
  have equals : c ≠ '=' := ne_of_isBlank blank (by decide)
  have star : c ≠ '*' := ne_of_isBlank blank (by decide)
  obtain ⟨mode, shapes, opened⟩ := state
  cases mode with
  | content =>
    simp [step, Mode.afterBlank, enter, bracket, closing, brace, closingBrace]
  | bracket => simp [step, Mode.afterBlank, slash, noName]
  | startTag name properties place =>
    cases place <;>
      simp [step, stepTag, endWord, Mode.afterBlank, TagPlace.afterBlank, enter, blank, noName,
        closing, brace, closingBrace, quote, backslash, equals]
  | endTag name => simp [step, Mode.afterBlank, closing, noName]
  | brace place =>
    cases place with
    | string mark =>
      cases mark <;>
        simp [step, stepBrace, Mode.afterBlank, BracePlace.afterBlank, enter, Quote.mark, quote,
          apostrophe, backslash]
    | _ =>
      simp [step, stepBrace, Mode.afterBlank, BracePlace.afterBlank, enter, blank, closingBrace,
        quote, apostrophe, slash, star]

/-! ## The reader does not see layout -/

@[simp]
theorem run_nil (state : State) : state.run [] = some state := rfl

@[simp]
theorem run_cons (state : State) (c : Char) (rest : Text) :
    state.run (c :: rest) = (state.step c).bind fun next => next.run rest := rfl

theorem run_append (state : State) (left right : Text) :
    state.run (left ++ right) = (state.run left).bind fun next => next.run right := by
  simp only [run, List.foldlM_append]
  rfl

/-- Whether a blank leaves the state as it is. -/
def Settled (state : State) : Prop :=
  state.mode.afterBlank = some state.mode

theorem settled_of_content {state : State} (content : state.mode = .content) : state.Settled := by
  rw [Settled, content]
  rfl

/-- After a blank the state is settled. -/
theorem settled_of_step {c : Char} (blank : isBlank c = true) {state next : State}
    (stepped : state.step c = some next) : next.Settled := by
  rw [step_of_isBlank blank, Option.map_eq_some_iff] at stepped
  obtain ⟨mode, after, rfl⟩ := stepped
  exact Mode.afterBlank_idem after

/-- Blanks leave a settled state as it is. -/
theorem Settled.run_blanks {state : State} (settled : state.Settled) (blanks : Text)
    (blank : blanks.isBlank = true) (rest : Text) : state.run (blanks ++ rest) = state.run rest := by
  induction blanks with
  | nil => rfl
  | cons c blanks induction =>
    rw [Text.isBlank_cons, Bool.and_eq_true] at blank
    rw [List.cons_append, run_cons, step_of_isBlank blank.1, settled]
    exact induction blank.2

/-- Blanks that lead to content start in the same state. -/
theorem eq_of_run_blanks {blanks : Text} (blank : blanks.isBlank = true) {state next : State}
    (ran : state.run blanks = some next) (content : next.mode = .content) : state = next := by
  induction blanks generalizing state with
  | nil => exact Option.some.inj ran
  | cons c blanks induction =>
    rw [Text.isBlank_cons, Bool.and_eq_true] at blank
    rw [run_cons, Option.bind_eq_some_iff] at ran
    obtain ⟨middle, stepped, ran⟩ := ran
    obtain rfl := induction blank.2 ran
    rw [step_of_isBlank blank.1, Option.map_eq_some_iff] at stepped
    obtain ⟨mode, after, rfl⟩ := stepped
    obtain rfl : mode = .content := content
    rw [enter, ← Mode.eq_content_of_afterBlank after]

/--
Replacing a line break and blanks by the line break alone is not seen.  While
characters are skipped, which are blank, the state is settled.
-/
theorem run_replaceFrom {blanks : Text} (blank : blanks.isBlank = true) (text : Text)
    (state : State) (skip : Nat) (skipped : Text.isBlank (text.take skip) = true)
    (settled : skip ≠ 0 → state.Settled) :
    state.run (Text.replaceFrom ('\n' :: blanks) ['\n'] skip text) = state.run text := by
  induction text generalizing state skip with
  | nil => cases skip <;> rfl
  | cons c rest induction =>
    cases skip with
    | succ skip =>
      rw [List.take_succ_cons, Text.isBlank_cons, Bool.and_eq_true] at skipped
      have still := settled (Nat.succ_ne_zero skip)
      have passed : state.run (c :: rest) = state.run rest :=
        still.run_blanks [c] (by simp [skipped.1]) rest
      rw [Text.replaceFrom, passed]
      exact induction state skip skipped.2 fun _ => still
    | zero =>
      rw [Text.replaceFrom]
      split
      · next starts =>
        obtain ⟨rfl, after, rfl⟩ := List.cons_prefix_cons.mp (List.isPrefixOf_iff_prefix.mp starts)
        rw [List.singleton_append, run_cons, run_cons]
        cases stepped : state.step '\n' with
        | none => rfl
        | some next =>
          -- The line break has settled the state before its blanks are skipped.
          exact induction next blanks.length (by simpa using blank)
            fun _ => settled_of_step (by decide) stepped
      · rw [run_cons, run_cons]
        congr 1
        funext next
        exact induction next 0 rfl fun wrong => absurd rfl wrong

/-- Unindenting is not seen. -/
theorem run_unindent {unit : Text} (blank : unit.isBlank = true) (state : State) (text : Text) :
    state.run (Conversion.unindent unit text) = state.run text :=
  run_replaceFrom (Text.isBlank_copies blank Conversion.bodyLevels) text state 0 rfl
    fun wrong => absurd rfl wrong

/-- Taking off a unit before content goes on is not seen. -/
theorem run_trimSuffix {unit : Text} (blank : unit.isBlank = true) {state next : State}
    {text : Text} (ran : state.run text = some next) (content : next.mode = .content) :
    state.run (Text.trimSuffix text unit) = some next := by
  obtain ⟨removed, removedBlank, equal⟩ := Text.exists_eq_trimSuffix_append text blank
  rw [equal, run_append, Option.bind_eq_some_iff] at ran
  obtain ⟨middle, ran, rest⟩ := ran
  rw [ran, eq_of_run_blanks removedBlank rest content]

/-- A unit is taken off a text only where blanks leave the reader as it is. -/
theorem trimSuffix_eq_self {unit : Text} (blank : unit.isBlank = true) {state next : State}
    {text : Text} (ran : state.run text = some next) (unsettled : ¬ next.Settled) :
    Text.trimSuffix text unit = text := by
  obtain ⟨removed, removedBlank, equal⟩ := Text.exists_eq_trimSuffix_append text blank
  rcases List.eq_nil_or_concat removed with rfl | ⟨before, last, rfl⟩
  · rw [List.append_nil] at equal
    exact equal.symm
  · rw [List.concat_eq_append] at removedBlank equal
    rw [Text.isBlank_append, Bool.and_eq_true, Text.isBlank_cons, Bool.and_eq_true] at removedBlank
    rw [equal, ← List.append_assoc, run_append, Option.bind_eq_some_iff] at ran
    obtain ⟨middle, -, stepped⟩ := ran
    rw [run_cons, Option.bind_eq_some_iff] at stepped
    obtain ⟨after, stepped, ended⟩ := stepped
    cases ended
    exact absurd (settled_of_step removedBlank.2.1 stepped) unsettled

/-- The final form of an output is read like the output. -/
theorem run_finish {unit : Text} (blank : unit.isBlank = true) {output : Text} {next : State}
    (ran : State.run {} output = some next) (content : next.mode = .content) :
    State.run {} (Conversion.finish unit output) = some next := by
  obtain ⟨before, after, blankBefore, blankAfter, equal⟩ := Text.exists_eq_append_trim output
  rw [Conversion.finish, run_unindent blank, run_append]
  rw [equal, List.append_assoc, (settled_of_content rfl).run_blanks _ blankBefore, run_append,
    Option.bind_eq_some_iff] at ran
  obtain ⟨middle, ran, rest⟩ := ran
  obtain rfl := eq_of_run_blanks blankAfter rest content
  have newline : middle.run (['\n'] ++ []) = middle.run [] :=
    (settled_of_content content).run_blanks _ rfl []
  rw [ran]
  exact newline

end State

end HtmlJsx.Reader
