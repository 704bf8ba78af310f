import HtmlJsx.Proofs.Reader.Property

/-!
# The values of style fields

A value that is no integer is written between single quotes, as a string of the
script.  Single quotes inside it are written as double quotes, and nothing else
is changed.  So a backslash in a value begins an escape sequence where it is
read: it denotes something shorter than it is, or hides the closing quote, and
a line break ends the string too early.  A value is read back exactly if it has
neither backslashes nor line terminators.

The reader of strings is that of module code, where the old octal escape
sequences are refused.
-/

namespace HtmlJsx

namespace ScriptString

/-! ## Strings of scripts -/

/-- The code units of a code point: one, or the two halves of a pair. -/
def codeUnits (code : Nat) : List Nat :=
  if code < 0x10000 then [code]
  else [0xD800 + (code - 0x10000) / 0x400, 0xDC00 + (code - 0x10000) % 0x400]

/-- The string that consists of the characters of a text. -/
def units (text : Text) : List Nat :=
  text.flatMap fun c => codeUnits c.toNat

/-- Whether a character ends a line of a script. -/
def isLineTerminator (c : Char) : Bool :=
  c == '\n' || c == '\r' || c == '\u2028' || c == '\u2029'

/-- The letters that stand for a control character after a backslash. -/
def controls : List (Char × Nat) :=
  [('b', 8), ('t', 9), ('n', 10), ('v', 11), ('f', 12), ('r', 13)]

/-- The escape sequence of a letter that is followed by so many hexadecimal digits. -/
def fixedCode? (count : Nat) (text : Text) : Option (Nat × List Nat) :=
  let digits := text.take count
  if digits.length = count ∧ digits.all Text.isHexDigit = true then
    some (count + 1, [Binary64.readDigits 16 digits])
  else
    none

/-- The escape sequence of a code point in braces, given what follows the opening brace. -/
def bracedCode? (text : Text) : Option (Nat × List Nat) :=
  let digits := text.takeWhile Text.isHexDigit
  let code := Binary64.readDigits 16 digits
  if (text.dropWhile Text.isHexDigit).head? = some '}' ∧ digits ≠ [] ∧ code ≤ 0x10FFFF then
    some (digits.length + 3, codeUnits code)
  else
    none

/-- The escape sequence that follows a backslash: its length, and the units it denotes. -/
def escape? : Text → Option (Nat × List Nat)
  | [] => none
  | 'x' :: rest => fixedCode? 2 rest
  | 'u' :: '{' :: rest => bracedCode? rest
  | 'u' :: rest => fixedCode? 4 rest
  | '\r' :: '\n' :: _ => some (2, [])
  | c :: rest =>
    if isLineTerminator c then
      some (1, [])
    else if c.isDigit then
      if c = '0' ∧ rest.head?.any Char.isDigit = false then some (1, [0]) else none
    else
      some (1, ((controls.lookup c).map fun code => [code]).getD (codeUnits c.toNat))

/--
Read a string after its opening quote, passing over the characters of an escape
sequence: the units it denotes, and what follows its closing quote.
-/
def bodyFrom : (skip : Nat) → Text → Option (List Nat × Text)
  | _, [] => none
  | skip + 1, _ :: rest => bodyFrom skip rest
  | 0, c :: rest =>
    if c = '\'' then
      some ([], rest)
    else if c = '\\' then
      (escape? rest).bind fun (length, meaning) =>
        (bodyFrom length rest).map fun (value, after) => (meaning ++ value, after)
    else if c = '\n' ∨ c = '\r' then
      none
    else
      (bodyFrom 0 rest).map fun (value, after) => (codeUnits c.toNat ++ value, after)

/-- Read a string in single quotes: the units it denotes, and what follows it. -/
def read? : Text → Option (List Nat × Text)
  | '\'' :: text => bodyFrom 0 text
  | _ => none

/-- A text is a string in single quotes, written on one line, that denotes a text. -/
structure IsStringOf (written meaning : Text) : Prop where
  denotes : read? written = some (units meaning, [])
  oneLine : ∀ c ∈ written, isLineTerminator c = false

/-! ## How much is read -/

theorem length_codeUnits (code : Nat) :
    1 ≤ (codeUnits code).length ∧ (codeUnits code).length ≤ 2 := by
  rw [codeUnits]
  split
  · exact ⟨Nat.le_refl 1, Nat.le_succ 1⟩
  · exact ⟨Nat.le_succ 1, Nat.le_refl 2⟩

@[simp]
theorem units_cons (c : Char) (rest : Text) : units (c :: rest) = codeUnits c.toNat ++ units rest :=
  List.flatMap_cons

@[simp]
theorem units_append (left right : Text) : units (left ++ right) = units left ++ units right :=
  List.flatMap_append

theorem length_le_units (text : Text) : text.length ≤ (units text).length := by
  induction text with
  | nil => exact Nat.le_refl 0
  | cons c rest induction =>
    have first := (length_codeUnits c.toNat).1
    rw [units_cons, List.length_append, List.length_cons]
    omega

theorem length_of_fixedCode? {count length : Nat} {text : Text} {meaning : List Nat}
    (found : fixedCode? count text = some (length, meaning)) :
    1 ≤ length ∧ meaning.length = 1 := by
  rw [fixedCode?] at found
  split at found
  · cases found
    exact ⟨Nat.le_add_left .., rfl⟩
  · cases found

theorem length_of_bracedCode? {length : Nat} {text : Text} {meaning : List Nat}
    (found : bracedCode? text = some (length, meaning)) :
    3 ≤ length ∧ meaning.length ≤ 2 := by
  rw [bracedCode?] at found
  split at found
  · cases found
    exact ⟨Nat.le_add_left .., (length_codeUnits _).2⟩
  · cases found

/-- An escape sequence denotes no more units than it is written with. -/
theorem length_of_escape? {text : Text} {length : Nat} {meaning : List Nat}
    (found : escape? text = some (length, meaning)) :
    meaning.length ≤ (units (text.take length)).length := by
  have written := length_le_units (text.take length)
  rw [List.length_take] at written
  rw [escape?.eq_def] at found
  split at found
  · cases found
  · have bounds := length_of_fixedCode? found
    rw [List.length_cons] at written
    omega
  · have bounds := length_of_bracedCode? found
    rw [List.length_cons, List.length_cons] at written
    omega
  · have bounds := length_of_fixedCode? found
    rw [List.length_cons] at written
    omega
  · cases found
    exact Nat.zero_le _
  · next c rest _ _ _ _ =>
    split at found
    · cases found
      exact Nat.zero_le _
    split at found
    · split at found
      · cases found
        exact written
      · cases found
    · cases found
      have single := (length_codeUnits c.toNat).1
      rw [List.take_succ_cons, List.take_zero, units_cons, List.length_append]
      cases controls.lookup c with
      | none => exact Nat.le_add_right ..
      | some code => exact Nat.le_trans single (Nat.le_add_right ..)

/--
What is read lies before a quote.  It denotes no more units than it is written
with, and fewer if there is a backslash in it.
-/
theorem exists_of_bodyFrom {skip : Nat} {text after : Text} {value : List Nat}
    (read : bodyFrom skip text = some (value, after)) :
    ∃ inside, text = inside ++ '\'' :: after ∧ skip ≤ inside.length ∧
      value.length ≤ (units (inside.drop skip)).length ∧
      ('\\' ∈ inside.drop skip → value.length < (units (inside.drop skip)).length) := by
  induction text generalizing skip value with
  | nil => cases skip <;> cases read
  | cons c rest induction =>
    cases skip with
    | succ skip =>
      obtain ⟨inside, rfl, within, bounds⟩ := induction read
      exact ⟨c :: inside, rfl, Nat.succ_le_succ within, bounds⟩
    | zero =>
      rw [bodyFrom] at read
      split at read
      · next quote =>
        cases read
        exact ⟨[], by rw [quote]; rfl, Nat.le_refl 0, Nat.le_refl 0, nofun⟩
      split at read
      · next backslash =>
        obtain ⟨⟨length, meaning⟩, found, read⟩ := Option.bind_eq_some_iff.mp read
        obtain ⟨⟨others, after⟩, later, same⟩ := Option.map_eq_some_iff.mp read
        cases same
        obtain ⟨inside, rfl, within, bound, -⟩ := induction later
        -- The units of the escape sequence and those of the rest are apart, and the backslash
        -- itself counts for nothing.
        have sequence := length_of_escape? found
        rw [List.take_append_of_le_length within] at sequence
        have halves := congrArg List.length (units_append (inside.take length) (inside.drop length))
        rw [List.take_append_drop, List.length_append] at halves
        have fewer : (meaning ++ others).length < (units (c :: inside)).length := by
          have first := (length_codeUnits c.toNat).1
          rw [units_cons, List.length_append, List.length_append]
          omega
        exact ⟨c :: inside, rfl, Nat.zero_le _, Nat.le_of_lt fewer, fun _ => fewer⟩
      · next plain =>
        split at read
        · cases read
        obtain ⟨⟨others, after⟩, later, same⟩ := Option.map_eq_some_iff.mp read
        cases same
        obtain ⟨inside, rfl, -, bound, strict⟩ := induction later
        rw [List.drop_zero] at bound strict
        refine ⟨c :: inside, rfl, Nat.zero_le _, ?_, ?_⟩
        · rw [List.drop_zero, units_cons, List.length_append, List.length_append]
          exact Nat.add_le_add_left bound _
        · intro member
          have inner := strict ((List.mem_cons.mp member).resolve_left (Ne.symm plain))
          rw [List.drop_zero, units_cons, List.length_append, List.length_append]
          exact Nat.add_lt_add_left inner _

/-- Escape sequences of all kinds: nine units are read from more than thirty. -/
example : read? "'\\x41\\u0042\\u\x7b1F600\x7d\\'\\\\\\n\\q\\0' + x".toList =
    some ([0x41, 0x42, 0xD83D, 0xDE00, 0x27, 0x5C, 0x0A, 0x71, 0], " + x".toList) := by
  decide

/-- Characters that have no part to play in strings are read as themselves. -/
theorem bodyFrom_plain {body : Text}
    (plain : ∀ c ∈ body, c ≠ '\'' ∧ c ≠ '\\' ∧ isLineTerminator c = false) (after : Text) :
    bodyFrom 0 (body ++ '\'' :: after) = some (units body, after) := by
  induction body with
  | nil => rfl
  | cons c rest induction =>
    rw [List.forall_mem_cons] at plain
    obtain ⟨⟨quote, backslash, inLine⟩, others⟩ := plain
    have noBreak : ¬ (c = '\n' ∨ c = '\r') := by
      rintro (rfl | rfl)
      · exact absurd inLine (by decide)
      · exact absurd inLine (by decide)
    rw [List.cons_append, bodyFrom, if_neg quote, if_neg backslash, if_neg noBreak,
      induction others]
    rfl

/-- A text between quotes is a string that denotes it exactly if it needs no escape sequences. -/
theorem isStringOf_iff {body : Text} (unquoted : '\'' ∉ body) :
    IsStringOf ('\'' :: body ++ ['\'']) body ↔ ∀ c ∈ body, c ≠ '\\' ∧ isLineTerminator c = false := by
  constructor
  · rintro ⟨denotes, oneLine⟩
    obtain ⟨inside, same, -, -, strict⟩ := exists_of_bodyFrom denotes
    obtain rfl : body = inside := List.append_cancel_right same
    intro c member
    refine ⟨?_, oneLine c (List.mem_append_left _ (List.mem_cons_of_mem _ member))⟩
    rintro rfl
    exact Nat.lt_irrefl _ (strict member)
  · intro plain
    constructor
    · apply bodyFrom_plain
      intro c member
      exact ⟨fun same => unquoted (same ▸ member), plain c member⟩
    · intro c member
      rw [List.cons_append, List.mem_cons, List.mem_append, List.mem_singleton] at member
      rcases member with rfl | inner | rfl
      · decide
      · exact (plain c inner).2
      · decide

end ScriptString

namespace FieldValue

open Style ScriptString

/-- A value with double quotes in place of single ones. -/
def requoted (value : Text) : Text :=
  value.map fun c => if c = '\'' then '"' else c

theorem replace_eq_requoted (value : Text) : Text.replace ['\''] ['"'] value = requoted value := by
  rw [Text.replace_char, requoted]
  induction value with
  | nil => rfl
  | cons c rest induction =>
    rw [List.flatMap_cons, List.map_cons, induction]
    by_cases quote : c = '\''
    · rw [if_pos quote.symm, if_pos quote]
      rfl
    · rw [if_neg (Ne.symm quote), if_neg quote]
      rfl

theorem quote_not_mem_requoted (value : Text) : '\'' ∉ requoted value := by
  rw [requoted, List.mem_map]
  rintro ⟨c, -, same⟩
  split at same
  · exact absurd same (by decide)
  · next other => exact other same

/-- Replacing quotes brings in no characters that need escape sequences and takes none away. -/
theorem requoted_plain_iff (value : Text) :
    (∀ c ∈ requoted value, c ≠ '\\' ∧ isLineTerminator c = false) ↔
      ∀ c ∈ value, c ≠ '\\' ∧ isLineTerminator c = false := by
  rw [requoted, List.forall_mem_map]
  have each (c : Char) : (if c = '\'' then '"' else c) ≠ '\\' ∧
      isLineTerminator (if c = '\'' then '"' else c) = false ↔
        c ≠ '\\' ∧ isLineTerminator c = false := by
    split
    · next quote =>
      rw [quote]
      decide
    · rfl
  simp only [each]

/--
A value that is no integer is written as a string, unless it cannot be judged.
The string ends with the closing quote and denotes the value with double quotes
in place of single ones exactly if there is no backslash and no line terminator
in the value.
-/
theorem fieldValue_isStringOf_iff (value : Text) (other : Spelling.isInteger value ≠ .ok true) :
    (∃ fault, Spelling.isInteger value = .error fault ∧ fieldValue value = .error fault) ∨
    ∃ written, fieldValue value = .ok written ∧
      (IsStringOf written (requoted value) ↔
        ∀ c ∈ value, c ≠ '\\' ∧ isLineTerminator c = false) := by
  cases judged : Spelling.isInteger value with
  | error fault =>
    refine .inl ⟨fault, rfl, ?_⟩
    rw [fieldValue, judged]
    rfl
  | ok integer =>
    cases integer with
    | true => exact absurd judged other
    | false =>
      refine .inr ⟨'\'' :: requoted value ++ ['\''], ?_, ?_⟩
      · rw [fieldValue, judged, ← replace_eq_requoted]
        rfl
      · rw [isStringOf_iff (quote_not_mem_requoted value), requoted_plain_iff]

/-- A value with names in quotes. -/
def quotedNames : Text := "'Helvetica Neue', \"Segoe UI\", sans-serif".toList

theorem fieldValue_isStringOf_iff_quotedNames :
    Spelling.isInteger quotedNames ≠ .ok true ∧
      ∃ written, fieldValue quotedNames = .ok written ∧
        IsStringOf written "\"Helvetica Neue\", \"Segoe UI\", sans-serif".toList := by
  have judged : Spelling.isInteger quotedNames = .ok false := rfl
  have other : Spelling.isInteger quotedNames ≠ .ok true := by
    rw [judged]
    exact nofun
  refine ⟨other, ?_⟩
  rcases fieldValue_isStringOf_iff quotedNames other with
    ⟨fault, unjudged, -⟩ | ⟨written, found, exactly⟩
  · rw [judged] at unjudged
    cases unjudged
  · have plain : (quotedNames.all fun c => c != '\\' && !isLineTerminator c) = true := by decide
    refine ⟨written, found, exactly.mpr ?_⟩
    simpa using List.all_eq_true.mp plain

/-- A backslash at the end of a value keeps the string from being closed. -/
theorem backslash_hides_closingQuote :
    parse "content: \\".toList = [("content".toList, "\\".toList)] ∧
      Spelling.isInteger "\\".toList = .ok false ∧
      fieldValue "\\".toList = .ok "'\\'".toList ∧
      read? "'\\'".toList = none ∧
      ¬ IsStringOf "'\\'".toList (requoted "\\".toList) := by
  have stored : parse "content: \\".toList = [("content".toList, "\\".toList)] := by
    decide +kernel
  have unread : read? "'\\'".toList = none := by decide
  refine ⟨stored, rfl, rfl, unread, ?_⟩
  intro string
  have denotes := string.denotes
  rw [unread] at denotes
  cases denotes

end FieldValue

end HtmlJsx
