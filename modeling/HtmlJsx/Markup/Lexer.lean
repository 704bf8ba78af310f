import HtmlJsx.Markup.Tag
import HtmlJsx.Text.Quoted

/-!
# Reading markup into tokens

The lexer walks over a text once and, over what the first walk leaves,
a second time.  The first walk stops where a construct might be incomplete;
the second one takes the rest to be complete and turns what cannot be read
into characters.

Inside `script` and `style` elements everything up to the matching end tag
is characters; the name of such an element is the mode of the walk.
-/

namespace HtmlJsx.Lexer

/-- The element whose raw content is being read, if any. -/
abbrev Mode := Option Text

/-- What one construct contributes: tokens, the mode after it, and the text after it. -/
structure Reading where
  tokens : List Token
  mode : Mode
  rest : Text

/-- Elements whose content is raw text. -/
def rawElements : List Text := ["script".toList, "style".toList]

/-- Whether the walk can neither read on in a tag nor give it up. -/
def mayContinue (c : Char) : Bool :=
  c.isAlpha || c == '=' || c == '/'

/--
A start tag from the first letter of its name on.  Without an end it is
incomplete; a tag that is broken by a character which fits nowhere becomes
characters up to there.
-/
def startTag? (text : Text) : Except MarkupFault (Option Reading) :=
  let found := Tag.body text
  let name := Text.lower found.name
  match found.rest with
  | [] => .ok none
  | '>' :: rest =>
    (Tag.resolveAttributes found.attributes).map fun attributes =>
      some ⟨[.start name attributes], if rawElements.contains name then some name else none, rest⟩
  | '/' :: '>' :: rest =>
    (Tag.resolveAttributes found.attributes).map fun attributes =>
      some ⟨[.selfClosed name attributes], none, rest⟩
  | c :: _ =>
    if mayContinue c then
      .ok none
    else
      (Tag.resolveAttributes found.attributes).map fun _ =>
        some ⟨[.text ('<' :: text.take (text.length - found.rest.length))], none, found.rest⟩

/-- Whether a character may belong to the name in a plain end tag, after its first letter. -/
def isEndNameChar (c : Char) : Bool :=
  c.isAlphanum || c == '-' || c == '.' || c == ':' || c == '_'

/-- The name in a plain end tag: blanks, a name, blanks, and the closing bracket. -/
def plainEndName? (text : Text) : Option Text :=
  let source := text.dropWhile isBlank
  match source with
  | [] => none
  | first :: more =>
    if first.isAlpha then
      match (more.dropWhile isEndNameChar).dropWhile isBlank with
      | '>' :: _ => some (first :: more.takeWhile isEndNameChar)
      | _ => none
    else
      none

/-- A comment that runs to the first closing bracket. -/
def bogusComment? (text : Text) : Option Reading :=
  (Text.cut '>' text).map fun (content, rest) => ⟨[.comment content], none, rest⟩

/-- An end tag, from the text after its slash on. -/
def endTag? (mode : Mode) (text : Text) : Option Reading :=
  match Text.cut '>' text with
  | none => none
  | some (inside, rest) =>
    let characters := Token.text ('<' :: '/' :: inside ++ ['>'])
    match plainEndName? text with
    | some name =>
      if mode.isSome && mode != some (Text.lower name) then
        some ⟨[characters], mode, rest⟩
      else
        some ⟨[.stop (Text.lower name)], none, rest⟩
    | none =>
      if mode.isSome then
        some ⟨[characters], mode, rest⟩
      else
        match text with
        | [] => none
        | first :: _ =>
          if first.isAlpha then
            some ⟨[.stop (Text.lower (text.takeWhile Tag.isNameChar))], none, rest⟩
          else if first = '>' then
            some ⟨[], none, rest⟩
          else
            bogusComment? text

/-- Whether a text begins with a closing bracket after blanks; the text after it. -/
def afterBracket? (text : Text) : Option Text :=
  match text.dropWhile isBlank with
  | '>' :: rest => some rest
  | _ => none

/-- Whether a text begins with the end of a comment; the text after it. -/
def commentEnd? : Text → Option Text
  | '-' :: '-' :: rest => afterBracket? rest
  | _ => none

/-- Whether a text begins with the end of a conditional section; the text after it. -/
def conditionEnd? : Text → Option Text
  | ']' :: rest => afterBracket? rest
  | _ => none

/-- Whether a text begins with the end of a data section; the text after it. -/
def dataEnd? : Text → Option Text
  | ']' :: rest => conditionEnd? (rest.dropWhile isBlank)
  | _ => none

/-- The text before the first place where an end is found, and the text after that end. -/
def until? (ending? : Text → Option Text) : Text → Option (Text × Text)
  | [] => none
  | c :: rest =>
    match ending? (c :: rest) with
    | some after => some ([], after)
    | none => (until? ending? rest).map fun (before, after) => (c :: before, after)

/-- Keywords of sections that end with two brackets. -/
def dataKeywords : List Text :=
  ["temp".toList, "cdata".toList, "ignore".toList, "include".toList, "rcdata".toList]

/-- Keywords of sections that end with one bracket. -/
def conditionKeywords : List Text :=
  ["if".toList, "else".toList, "endif".toList]

/-- Whether a character may belong to a section name, after its first letter. -/
def isSectionNameChar (c : Char) : Bool :=
  c.isAlphanum || c == '-' || c == '_' || c == '.'

/-- The token of a marked section: character data, or a declaration. -/
def sectionToken (content : Text) : Token :=
  if "CDATA[".toList.isPrefixOf (Text.upper content) then .cdata (content.drop 6)
  else .declaration content

/-- A marked section, from the text after its opening bracket on. -/
def markedSection? (text : Text) : Except MarkupFault (Option Reading) :=
  match text with
  | [] => .ok none
  | first :: more =>
    if first.isAlpha then
      let name := first :: more.takeWhile isSectionNameChar
      let afterName := more.dropWhile isSectionNameChar
      let blanks := afterName.takeWhile isBlank
      let keyword := Text.lower (Text.trim name)
      if (afterName.dropWhile isBlank).isEmpty then
        .ok none
      else
        let read (ending? : Text → Option Text) : Except MarkupFault (Option Reading) :=
          .ok ((until? ending? text).map fun (content, rest) =>
            ⟨[sectionToken content], none, rest⟩)
        if dataKeywords.contains keyword then read dataEnd?
        else if conditionKeywords.contains keyword then read conditionEnd?
        else .error (.unknownSection (name ++ blanks))
    else
      .error (.unnamedSection (('<' :: '!' :: '[' :: text).take 20))

/-- A declaration, from the text after its exclamation mark on. -/
def declaration? (text : Text) : Except MarkupFault (Option Reading) :=
  match text with
  | '-' :: '-' :: rest =>
    .ok ((until? commentEnd? rest).map fun (content, after) => ⟨[.comment content], none, after⟩)
  | '[' :: rest => markedSection? rest
  | _ =>
    if Text.lower (text.take 7) = "doctype".toList then
      .ok ((Text.cut '>' (text.drop 7)).map fun (content, rest) =>
        ⟨[.doctype (content.drop 1)], none, rest⟩)
    else
      .ok (bogusComment? text)

/-- The construct that an opening bracket begins; `none` if it is incomplete. -/
def construct? (mode : Mode) (text : Text) : Except MarkupFault (Option Reading) :=
  match text with
  | [] => .ok none
  | '/' :: rest => .ok (endTag? mode rest)
  | '?' :: rest =>
    .ok ((Text.cut '>' rest).map fun (content, after) => ⟨[.instruction content], none, after⟩)
  | '!' :: rest => declaration? rest
  | c :: _ => if c.isAlpha then startTag? text else .ok (some ⟨[.text ['<']], none, text⟩)

/-- What an opening bracket is read as when its construct can never be completed. -/
def giveUp (mode : Mode) (text : Text) : Reading :=
  match Text.cut '>' text with
  | some (inside, rest) => ⟨[.text ('<' :: inside ++ ['>'])], mode, rest⟩
  | none =>
    match Text.cut '<' text with
    | some (inside, rest) => ⟨[.text ('<' :: inside)], mode, '<' :: rest⟩
    | none => ⟨[.text ['<']], mode, text⟩

/-- One step of a walk: to read on, or to stop before some text. -/
inductive Step where
  | go (reading : Reading)
  | halt (tokens : List Token) (pending : Text)

/-- The step at an opening bracket. -/
def bracketStep (final : Bool) (mode : Mode) (text : Text) : Except MarkupFault Step :=
  (construct? mode text).map fun
    | some reading => .go reading
    | none => if final then .go (giveUp mode text) else .halt [] ('<' :: text)

/-- The text after the character that ended a reference; a semicolon is part of the reference. -/
def afterReference (text : Text) : Text :=
  if text.head? = some ';' then text.drop 1 else text

/-- The base and the digits of a numeric reference, and the text after them. -/
def referenceDigits? (text : Text) : Option (Nat × Text × Text) :=
  match text with
  | [] => none
  | first :: more =>
    if first = 'x' ∨ first = 'X' then
      some (16, more.takeWhile Text.isHexDigit, more.dropWhile Text.isHexDigit)
    else
      some (10, text.takeWhile Char.isDigit, text.dropWhile Char.isDigit)

/-- The step at a numeric reference, from the text after its hash on. -/
def numericStep (text : Text) : Except MarkupFault Step :=
  let bad : Step :=
    if text.contains ';' then .halt [.text ['&', '#']] text else .halt [] ('&' :: '#' :: text)
  match referenceDigits? text with
  | none => .ok bad
  | some (base, digits, rest) =>
    match rest with
    | [] => .ok bad
    | next :: _ =>
      if digits.isEmpty || Text.isHexDigit next then
        .ok bad
      else
        let number :=
          if base = 16 then .ok (Binary64.readDigits 16 digits) else Reference.decimalNumber digits
        number.map fun number =>
          .go ⟨[.text [Reference.character number]], none, afterReference rest⟩

/-- Whether a character may belong to the name of a reference, after its first letter. -/
def isReferenceNameChar (c : Char) : Bool :=
  c.isAlphanum || c == '-' || c == '.'

/--
The name of a reference and the text after it.  A name that reaches the end
of the text is only known up to its last hyphen or point.
-/
def referenceName? (text : Text) : Option (Text × Text) :=
  let name := text.takeWhile isReferenceNameChar
  match text.dropWhile isReferenceNameChar with
  | next :: rest => some (name, next :: rest)
  | [] =>
    let tail := (name.reverse.takeWhile Char.isAlphanum).reverse
    let known := name.take (name.length - tail.length - 1)
    if tail.length < name.length then some (known, name.drop known.length) else none

/-- What a named reference stands for; an unknown one stands for its name. -/
def referenceText (name : Text) : Text :=
  (NamedCharacter.any? name).getD ('&' :: name)

/-- The step at an ampersand. -/
def ampersandStep (final : Bool) (text : Text) : Except MarkupFault Step :=
  match text with
  | [] => .ok (.halt [] ['&'])
  | '#' :: rest => numericStep rest
  | first :: more =>
    if first.isAlpha then
      match referenceName? text with
      | some (name, rest) => .ok (.go ⟨[.text (referenceText name)], none, afterReference rest⟩)
      | none => .ok (.halt [] (if final && more.isEmpty then text else '&' :: text))
    else
      .ok (.go ⟨[.text ['&']], none, text⟩)

/-- The step at an opening bracket or an ampersand. -/
def step (final : Bool) (mode : Mode) (mark : Char) (text : Text) : Except MarkupFault Step :=
  if mark = '<' then bracketStep final mode text else ampersandStep final text

/-- Whether a text begins with the end tag of a raw element, ignoring case. -/
def beginsRawEnd (name text : Text) : Bool :=
  match text with
  | '<' :: '/' :: rest =>
    match Text.afterWord? name (rest.dropWhile isBlank) with
    | some after => (afterBracket? after).isSome
    | none => false
  | _ => false

/-- The characters before the first place that satisfies a test, and the text from there on. -/
def splitAt? (test : Text → Bool) : Text → Option (Text × Text)
  | [] => none
  | c :: rest =>
    if test (c :: rest) then
      some ([], c :: rest)
    else
      (splitAt? test rest).map fun (before, after) => (c :: before, after)

/-- Whether a character begins a construct outside raw elements. -/
def isMark (c : Char) : Bool :=
  c == '<' || c == '&'

/-- The characters before the next construct; `none` if raw content has no end. -/
def leading? : Mode → Text → Option (Text × Text)
  | none, text => some (text.takeWhile (!isMark ·), text.dropWhile (!isMark ·))
  | some name, text => splitAt? (beginsRawEnd name) text

/-- The token of a run of characters, if there are any. -/
def run (characters : Text) : List Token :=
  if characters.isEmpty then [] else [.text characters]

/-! ## The walk makes progress -/

theorem length_startTag? {text : Text} {reading : Reading}
    (found : startTag? text = .ok (some reading)) : reading.rest.length ≤ text.length := by
  have bound := Tag.length_body text
  unfold startTag? at found
  dsimp only at found
  split at found
  · cases found
  · next rest equal =>
    rw [equal, List.length_cons] at bound
    cases attributes : Tag.resolveAttributes (Tag.body text).attributes with
    | error fault => rw [attributes] at found; cases found
    | ok resolved =>
      rw [attributes] at found
      cases found
      exact Nat.le_of_succ_le bound
  · next rest equal =>
    rw [equal, List.length_cons, List.length_cons] at bound
    cases attributes : Tag.resolveAttributes (Tag.body text).attributes with
    | error fault => rw [attributes] at found; cases found
    | ok resolved =>
      rw [attributes] at found
      cases found
      exact Nat.le_of_succ_le (Nat.le_of_succ_le bound)
  · split at found
    · cases found
    · cases attributes : Tag.resolveAttributes (Tag.body text).attributes with
      | error fault => rw [attributes] at found; cases found
      | ok resolved =>
        rw [attributes] at found
        cases found
        exact bound

theorem length_bogusComment? {text : Text} {reading : Reading}
    (found : bogusComment? text = some reading) : reading.rest.length ≤ text.length := by
  simp only [bogusComment?, Option.map_eq_some_iff] at found
  obtain ⟨⟨content, rest⟩, cutFound, rfl⟩ := found
  exact Nat.le_of_lt (Text.length_of_cut cutFound)

theorem length_endTag? {mode : Mode} {text : Text} {reading : Reading}
    (found : endTag? mode text = some reading) : reading.rest.length ≤ text.length := by
  unfold endTag? at found
  split at found
  · cases found
  · next inside rest cutFound =>
    have bound := Nat.le_of_lt (Text.length_of_cut cutFound)
    dsimp only at found
    repeat' split at found
    all_goals first
      | exact length_bogusComment? found
      | (cases found; exact bound)

theorem length_afterBracket? {text rest : Text} (found : afterBracket? text = some rest) :
    rest.length ≤ text.length := by
  have bound := Tag.length_dropWhile isBlank text
  unfold afterBracket? at found
  split at found
  · next equal =>
    rw [equal, List.length_cons] at bound
    cases found
    exact Nat.le_of_succ_le bound
  · cases found

theorem length_commentEnd? {text rest : Text} (found : commentEnd? text = some rest) :
    rest.length ≤ text.length := by
  unfold commentEnd? at found
  split at found
  · have bound := length_afterBracket? found
    simp only [List.length_cons]
    omega
  · cases found

theorem length_conditionEnd? {text rest : Text} (found : conditionEnd? text = some rest) :
    rest.length ≤ text.length := by
  unfold conditionEnd? at found
  split at found
  · have bound := length_afterBracket? found
    simp only [List.length_cons]
    omega
  · cases found

theorem length_dataEnd? {text rest : Text} (found : dataEnd? text = some rest) :
    rest.length ≤ text.length := by
  unfold dataEnd? at found
  split at found
  · next more =>
    have bound := length_conditionEnd? found
    have blanks := Tag.length_dropWhile isBlank more
    simp only [List.length_cons]
    omega
  · cases found

theorem length_until? {ending? : Text → Option Text}
    (bounded : ∀ {text rest : Text}, ending? text = some rest → rest.length ≤ text.length)
    {text before after : Text} (found : until? ending? text = some (before, after)) :
    after.length ≤ text.length := by
  induction text generalizing before with
  | nil => cases found
  | cons c rest ih =>
    unfold until? at found
    split at found
    · next endFound =>
      cases found
      exact bounded endFound
    · simp only [Option.map_eq_some_iff] at found
      obtain ⟨⟨front, back⟩, inner, equal⟩ := found
      obtain ⟨rfl, rfl⟩ := Prod.mk.inj equal
      exact Nat.le_succ_of_le (ih inner)

theorem length_markedSection? {text : Text} {reading : Reading}
    (found : markedSection? text = .ok (some reading)) : reading.rest.length ≤ text.length := by
  unfold markedSection? at found
  split at found
  · cases found
  · next first more =>
    split at found
    · dsimp only at found
      repeat' split at found
      · cases found
      · simp only [Except.ok.injEq, Option.map_eq_some_iff] at found
        obtain ⟨⟨content, rest⟩, inner, rfl⟩ := found
        exact length_until? length_dataEnd? inner
      · simp only [Except.ok.injEq, Option.map_eq_some_iff] at found
        obtain ⟨⟨content, rest⟩, inner, rfl⟩ := found
        exact length_until? length_conditionEnd? inner
      · cases found
    · cases found

theorem length_declaration? {text : Text} {reading : Reading}
    (found : declaration? text = .ok (some reading)) : reading.rest.length ≤ text.length := by
  unfold declaration? at found
  split at found
  · simp only [Except.ok.injEq, Option.map_eq_some_iff] at found
    obtain ⟨⟨content, rest⟩, inner, rfl⟩ := found
    have bound := length_until? length_commentEnd? inner
    simp only [List.length_cons]
    omega
  · have bound := length_markedSection? found
    simp only [List.length_cons]
    omega
  · split at found
    · simp only [Except.ok.injEq, Option.map_eq_some_iff] at found
      obtain ⟨⟨content, rest⟩, inner, rfl⟩ := found
      have bound := Text.length_of_cut inner
      rw [List.length_drop] at bound
      change rest.length ≤ text.length
      omega
    · simp only [Except.ok.injEq] at found
      exact length_bogusComment? found

theorem length_construct? {mode : Mode} {text : Text} {reading : Reading}
    (found : construct? mode text = .ok (some reading)) : reading.rest.length ≤ text.length := by
  unfold construct? at found
  split at found
  · cases found
  · simp only [Except.ok.injEq] at found
    exact Nat.le_succ_of_le (length_endTag? found)
  · simp only [Except.ok.injEq, Option.map_eq_some_iff] at found
    obtain ⟨⟨content, rest⟩, inner, rfl⟩ := found
    exact Nat.le_succ_of_le (Nat.le_of_lt (Text.length_of_cut inner))
  · exact Nat.le_succ_of_le (length_declaration? found)
  · split at found
    · exact length_startTag? found
    · cases found
      exact Nat.le_refl _

theorem length_giveUp (mode : Mode) (text : Text) :
    (giveUp mode text).rest.length ≤ text.length := by
  unfold giveUp
  split
  · next cutFound => exact Nat.le_of_lt (Text.length_of_cut cutFound)
  · split
    · next cutFound => exact Text.length_of_cut cutFound
    · exact Nat.le_refl _

theorem length_afterReference (text : Text) : (afterReference text).length ≤ text.length := by
  unfold afterReference
  split
  · rw [List.length_drop]
    omega
  · exact Nat.le_refl _

theorem length_referenceDigits? {text digits rest : Text} {base : Nat}
    (found : referenceDigits? text = some (base, digits, rest)) : rest.length ≤ text.length := by
  unfold referenceDigits? at found
  split at found
  · cases found
  · split at found
    · cases found
      exact Nat.le_succ_of_le (Tag.length_dropWhile _ _)
    · cases found
      exact Tag.length_dropWhile _ _

theorem length_numericStep {text : Text} {reading : Reading}
    (found : numericStep text = .ok (.go reading)) : reading.rest.length ≤ text.length := by
  unfold numericStep at found
  dsimp only at found
  split at found
  · split at found <;> cases found
  · next base digits rest digitsFound =>
    have bound := length_referenceDigits? digitsFound
    split at found
    · split at found <;> cases found
    · next next more =>
      split at found
      · split at found <;> cases found
      · have ending := length_afterReference (next :: more)
        split at found
        · cases found
          exact Nat.le_trans ending bound
        · cases number : Reference.decimalNumber digits with
          | error fault => rw [number] at found; cases found
          | ok value =>
            rw [number] at found
            cases found
            exact Nat.le_trans ending bound

theorem length_referenceName? {text name rest : Text}
    (found : referenceName? text = some (name, rest)) : rest.length ≤ text.length := by
  unfold referenceName? at found
  dsimp only at found
  split at found
  · next next more equal =>
    have bound := Tag.length_dropWhile isReferenceNameChar text
    cases found
    rw [← equal]
    exact bound
  · split at found
    · cases found
      have bound : (text.takeWhile isReferenceNameChar).length ≤ text.length :=
        (List.takeWhile_sublist _).length_le
      rw [List.length_drop]
      omega
    · cases found

theorem length_ampersandStep {final : Bool} {text : Text} {reading : Reading}
    (found : ampersandStep final text = .ok (.go reading)) : reading.rest.length ≤ text.length := by
  unfold ampersandStep at found
  split at found
  · cases found
  · exact Nat.le_succ_of_le (length_numericStep found)
  · split at found
    · split at found
      · next nameFound =>
        cases found
        exact Nat.le_trans (length_afterReference _) (length_referenceName? nameFound)
      · cases found
    · cases found
      exact Nat.le_refl _

theorem length_bracketStep {final : Bool} {mode : Mode} {text : Text} {reading : Reading}
    (found : bracketStep final mode text = .ok (.go reading)) :
    reading.rest.length ≤ text.length := by
  unfold bracketStep at found
  cases constructFound : construct? mode text with
  | error fault => rw [constructFound] at found; cases found
  | ok outcome =>
    rw [constructFound] at found
    cases outcome with
    | some reading =>
      cases found
      exact length_construct? constructFound
    | none =>
      cases final with
      | true =>
        cases found
        exact length_giveUp mode text
      | false => cases found

/-- What a step leaves is no longer than the text after the character it was made at. -/
theorem length_step {final : Bool} {mode : Mode} {mark : Char} {text : Text} {reading : Reading}
    (found : step final mode mark text = .ok (.go reading)) :
    reading.rest.length ≤ text.length := by
  unfold step at found
  split at found
  · exact length_bracketStep found
  · exact length_ampersandStep found

theorem length_splitAt? {test : Text → Bool} {text before after : Text}
    (found : splitAt? test text = some (before, after)) : after.length ≤ text.length := by
  induction text generalizing before with
  | nil => cases found
  | cons c rest ih =>
    unfold splitAt? at found
    split at found
    · cases found
      exact Nat.le_refl _
    · simp only [Option.map_eq_some_iff] at found
      obtain ⟨⟨front, back⟩, inner, equal⟩ := found
      obtain ⟨rfl, rfl⟩ := Prod.mk.inj equal
      exact Nat.le_succ_of_le (ih inner)

theorem length_leading? {mode : Mode} {text before after : Text}
    (found : leading? mode text = some (before, after)) : after.length ≤ text.length := by
  cases mode with
  | none =>
    cases found
    exact Tag.length_dropWhile _ _
  | some name => exact length_splitAt? found

/-! ## The walk -/

/--
Walk over a text.  The reading holds the tokens found, the mode at the end
and the text that is left; a walk that is not final leaves what might be
incomplete.
-/
def walk (final : Bool) (mode : Mode) (text : Text) : Except MarkupFault Reading :=
  match _split : leading? mode text with
  | none => .ok ⟨[], mode, text⟩
  | some (characters, []) => .ok ⟨run characters, mode, []⟩
  | some (characters, mark :: rest) =>
    match _stepped : step final mode mark rest with
    | .error fault => .error fault
    | .ok (.halt tokens pending) => .ok ⟨run characters ++ tokens, mode, pending⟩
    | .ok (.go reading) =>
      (walk final reading.mode reading.rest).map fun others =>
        ⟨run characters ++ reading.tokens ++ others.tokens, others.mode, others.rest⟩
termination_by text.length
decreasing_by
  have shorter := length_step _stepped
  have bound := length_leading? _split
  simp only [List.length_cons] at bound
  omega

/-- The tokens of a text.  What the second walk leaves becomes characters, except raw content. -/
def tokens (text : Text) : Except MarkupFault (List Token) := do
  let first ← walk false none text
  let second ← walk true first.mode first.rest
  let remainder := if second.mode.isNone then run second.rest else []
  return first.tokens ++ second.tokens ++ remainder

end HtmlJsx.Lexer
