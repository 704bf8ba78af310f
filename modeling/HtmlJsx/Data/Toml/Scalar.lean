import HtmlJsx.Data.Value
import HtmlJsx.Number.Spelling
import HtmlJsx.Text.Case

/-!
# TOML strings, numbers and moments

The values of a TOML document that hold no other values.  A reader takes
the characters that remain and gives what it has read with the rest.
-/

namespace HtmlJsx.Toml

/-- Why a document cannot be read. -/
inductive Failure where
  /-- The document is not well formed, or says two things of one name. -/
  | malformed
  /-- An integer has more digits than may be read. -/
  | tooManyDigits
  deriving Repr, DecidableEq

/-- A reader of one part of a document. -/
abbrev Reader (α : Type) := Text → Except Failure (α × Text)

/-- A malformed document. -/
def malformed {α : Type} : Except Failure α := .error .malformed

/-- Whether a character may stand between the parts of a line. -/
def isSpace (c : Char) : Bool := c == ' ' || c == '\t'

/-- Whether a character may stand between the parts of a list. -/
def isSpaceOrNewline (c : Char) : Bool := isSpace c || c == '\n'

/-- Pass over the space within a line. -/
def skipSpace (text : Text) : Text := text.dropWhile isSpace

/-- Whether a character is a control character that may not stand in a line. -/
def isControl (c : Char) : Bool := (c.toNat < 32 && c != '\t') || c.toNat == 127

/-- Whether a character is a control character that may not stand in a text of several lines. -/
def isInnerControl (c : Char) : Bool := isControl c && c != '\n'

/-- Pass over a comment up to the end of its line. -/
def skipComment : Text → Except Failure Text
  | '#' :: rest =>
    if (rest.takeWhile (· != '\n')).any isControl then malformed
    else .ok (rest.dropWhile (· != '\n'))
  | text => .ok text

/-! ## Strings -/

/-- The character that a letter after a backslash denotes. -/
def escapedChar? (c : Char) : Option Char :=
  if c = '"' ∨ c = '\\' then some c
  else if c = 'b' then some (Char.ofNat 8)
  else if c = 't' then some '\t'
  else if c = 'n' then some '\n'
  else if c = 'f' then some (Char.ofNat 12)
  else if c = 'r' then some '\r'
  else none

/-- Whether a number is the code of a character. -/
def isCharCode (code : Nat) : Bool :=
  code < 0xD800 || (0xDFFF < code && code ≤ 0x10FFFF)

/-- The character of a code with a fixed number of hexadecimal digits. -/
def codeEscape (width : Nat) : Reader Char := fun text =>
  let digits := text.take width
  let code := Binary64.readDigits 16 digits
  if digits.length = width ∧ digits.all Text.isHexDigit ∧ isCharCode code then
    .ok (Char.ofNat code, text.drop width)
  else
    malformed

/-- Pass over a line break that a backslash hides, and all space after it. -/
def hiddenLineBreak (text : Text) : Except Failure Text :=
  match skipSpace text with
  | [] => .ok []
  | '\n' :: rest => .ok (rest.dropWhile isSpaceOrNewline)
  | _ => malformed

/-- Read an escape after its backslash: the characters it denotes. -/
def escape (multiline : Bool) : Reader Text := fun text =>
  match text with
  | [] => malformed
  | c :: rest =>
    if multiline && isSpaceOrNewline c then do
      return ([], ← hiddenLineBreak text)
    else if c = 'u' then do
      let (decoded, after) ← codeEscape 4 rest
      return ([decoded], after)
    else if c = 'U' then do
      let (decoded, after) ← codeEscape 8 rest
      return ([decoded], after)
    else
      match escapedChar? c with
      | some decoded => .ok ([decoded], rest)
      | none => malformed

/-- Read a string with escapes after its opening quotes; the fuel bounds its length. -/
def basicFrom (multiline : Bool) : (fuel : Nat) → Text → Reader Text
  | 0, _, _ => malformed
  | _ + 1, _, [] => malformed
  | fuel + 1, content, c :: rest =>
    if c = '"' then
      if !multiline then
        .ok (content.reverse, rest)
      else
        match rest with
        | '"' :: '"' :: after => .ok (content.reverse, after)
        | _ => basicFrom multiline fuel (c :: content) rest
    else if c = '\\' then do
      let (decoded, after) ← escape multiline rest
      basicFrom multiline fuel (decoded.reverse ++ content) after
    else if (if multiline then isInnerControl c else isControl c) then
      malformed
    else
      basicFrom multiline fuel (c :: content) rest

/-- Read a string with escapes after its opening quotes. -/
def basic (multiline : Bool) : Reader Text := fun text =>
  basicFrom multiline (text.length + 1) [] text

/-- Read a string without escapes after its opening quote. -/
def verbatim : Reader Text := fun text =>
  match Text.cut '\'' text with
  | some (content, rest) => if content.any isControl then malformed else .ok (content, rest)
  | none => malformed

/-- Read a string of several lines without escapes after its opening quotes. -/
def verbatimLines : Reader Text
  | [] => malformed
  | '\'' :: '\'' :: '\'' :: rest => .ok ([], rest)
  | c :: rest =>
    if isInnerControl c then
      malformed
    else do
      let (content, after) ← verbatimLines rest
      return (c :: content, after)

/-- Quotes right after the closing quotes, two at most, belong to the string. -/
def extraQuotes (quote : Char) (content rest : Text) : Text × Text :=
  let extra := (rest.take 2).takeWhile (· == quote)
  (content ++ extra, rest.drop extra.length)

/-- The content of a string of several lines begins after a line break that follows its quotes. -/
def dropLineBreak : Text → Text
  | '\n' :: rest => rest
  | text => text

/-- Read a string of any form at its opening quote. -/
def string : Reader Text
  | '"' :: '"' :: '"' :: rest => do
    let (content, after) ← basic true (dropLineBreak rest)
    return extraQuotes '"' content after
  | '\'' :: '\'' :: '\'' :: rest => do
    let (content, after) ← verbatimLines (dropLineBreak rest)
    return extraQuotes '\'' content after
  | '"' :: rest => basic false rest
  | '\'' :: rest => verbatim rest
  | _ => malformed

/-! ## Moments -/

/-- A number of fixed width between two bounds. -/
def fixedNumber? (width low high : Nat) (text : Text) : Option (Nat × Text) :=
  let digits := text.take width
  let number := Binary64.readDigits 10 digits
  if digits.length = width ∧ digits.all Char.isDigit ∧ low ≤ number ∧ number ≤ high then
    some (number, text.drop width)
  else
    none

/-- A given character. -/
def mark? (mark : Char) : Text → Option Text
  | c :: rest => if c = mark then some rest else none
  | [] => none

/-- The fraction of a second in millionths, further digits cut off, and what follows. -/
def fraction : Text → Nat × Text
  | '.' :: rest =>
    let digits := rest.takeWhile Char.isDigit
    if digits.isEmpty then
      (0, '.' :: rest)
    else
      (Binary64.readDigits 10 ((digits ++ "000000".toList).take 6), rest.dropWhile Char.isDigit)
  | text => (0, text)

/-- A time of day. -/
def clockTime? (text : Text) : Option (ClockTime × Text) := do
  let (hour, text) ← fixedNumber? 2 0 23 text
  let (minute, text) ← fixedNumber? 2 0 59 (← mark? ':' text)
  let (second, text) ← fixedNumber? 2 0 59 (← mark? ':' text)
  let (microsecond, text) := fraction text
  return (⟨hour, minute, second, microsecond⟩, text)

/-- A date by the form of its parts; whether the day exists is not checked. -/
def date? (text : Text) : Option (Date × Text) := do
  let (year, text) ← fixedNumber? 4 0 9999 text
  let (month, text) ← fixedNumber? 2 1 12 (← mark? '-' text)
  let (day, text) ← fixedNumber? 2 1 31 (← mark? '-' text)
  return (⟨year, month, day⟩, text)

/-- The offset after a time in seconds, absent if none is written. -/
def zoneOffset (text : Text) : Option Int × Text :=
  match text with
  | [] => (none, text)
  | c :: rest =>
    if c = 'Z' ∨ c = 'z' then
      (some 0, rest)
    else if c = '+' ∨ c = '-' then
      let offset? : Option (Int × Text) := do
        let (hours, rest) ← fixedNumber? 2 0 23 rest
        let (minutes, rest) ← fixedNumber? 2 0 59 (← mark? ':' rest)
        let size : Int := (hours * 60 + minutes) * 60
        return (if c = '-' then -size else size, rest)
      match offset? with
      | some (offset, after) => (some offset, after)
      | none => (none, text)
    else
      (none, text)

/-- The time after a date, with its offset. -/
def timePart? : Text → Option (ClockTime × Option Int × Text)
  | c :: rest =>
    if c = 'T' ∨ c = 't' ∨ c = ' ' then do
      let (time, rest) ← clockTime? rest
      let (offset, rest) := zoneOffset rest
      return (time, offset, rest)
    else
      none
  | [] => none

/-- A date, a time, or both; absent if the text begins with neither. -/
def moment? (text : Text) : Option (Except Failure (Moment × Text)) :=
  match date? text with
  | some (date, rest) =>
    some <|
      if !date.isValid then
        malformed
      else
        match timePart? rest with
        | some (time, offset, after) => .ok (.dateTime date time offset, after)
        | none => .ok (.date date, rest)
  | none =>
    (clockTime? text).map fun (time, rest) => .ok (.time time, rest)

/-! ## Numbers -/

/--
Digits with single underscores between them: the digits and what follows.
The flag says that a digit has just been read, so that an underscore may
follow.
-/
def digitRun (isDigit : Char → Bool) : (afterDigit : Bool) → Text → Text × Text
  | _, [] => ([], [])
  | afterDigit, c :: rest =>
    if isDigit c then
      let (digits, after) := digitRun isDigit true rest
      (c :: digits, after)
    else if afterDigit && c == '_' then
      match digitRun isDigit false rest with
      | ([], _) => ([], c :: rest)
      | found => found
    else
      ([], c :: rest)

/-- A whole number with a base, such as `0x1F`. -/
def radixNumber? : Text → Option (Nat × Text)
  | '0' :: letter :: rest =>
    let base? := if letter = 'x' then some 16 else if letter = 'o' then some 8
      else if letter = 'b' then some 2 else none
    match base? with
    | some base =>
      match digitRun (Spelling.isDigitIn base) false rest with
      | ([], _) => none
      | (digits, after) => some (Binary64.readDigits base digits, after)
    | none => none
  | _ => none

/-- The digits of the whole part of a decimal number: a zero alone, or no zero first. -/
def wholeDigits? : Text → Option (Text × Text)
  | '0' :: rest => some (['0'], rest)
  | text =>
    match digitRun Char.isDigit false text with
    | ([], _) => none
    | found => some found

/-- The digits after a point, none if no digit follows it. -/
def fractionDigits : Text → Text × Text
  | '.' :: rest =>
    match digitRun Char.isDigit false rest with
    | ([], _) => ([], '.' :: rest)
    | found => found
  | text => ([], text)

/-- The exponent after its mark, absent if no digits follow. -/
def exponent? : Text → Option (Int × Text)
  | mark :: rest =>
    if mark = 'e' ∨ mark = 'E' then
      let (negative, unsigned) := Spelling.splitSign rest
      match digitRun Char.isDigit false unsigned with
      | ([], _) => none
      | (digits, after) =>
        let size : Int := Binary64.readDigits 10 digits
        some (if negative then -size else size, after)
    else
      none
  | [] => none

/-- A decimal number; absent if the text begins with none. -/
def decimalNumber? (text : Text) : Option (Except Failure (Value × Text)) :=
  let (negative, unsigned) := Spelling.splitSign text
  (wholeDigits? unsigned).map fun (whole, afterWhole) =>
    let (fraction, afterFraction) := fractionDigits afterWhole
    let float (exponent : Int) : Value :=
      .float (Binary64.ofDecimal negative (whole ++ fraction) (exponent - fraction.length))
    match exponent? afterFraction with
    | some (exponent, rest) => .ok (float exponent, rest)
    | none =>
      if !fraction.isEmpty then
        .ok (float 0, afterFraction)
      else if Spelling.digitLimit < whole.length then
        .error .tooManyDigits
      else
        let size : Int := Binary64.readDigits 10 whole
        .ok (.int (if negative then -size else size), afterFraction)

/-- The words that stand for numbers. -/
def numberWords : List (Text × Binary64) :=
  [("inf".toList, .infinite false), ("nan".toList, .nan), ("-inf".toList, .infinite true),
    ("+inf".toList, .infinite false), ("-nan".toList, .nan), ("+nan".toList, .nan)]

/-- Read a number. -/
def number : Reader Value := fun text =>
  match radixNumber? text with
  | some (natural, rest) => .ok (.int natural, rest)
  | none =>
    match decimalNumber? text with
    | some found => found
    | none =>
      match numberWords.find? fun entry => entry.1.isPrefixOf text with
      | some (word, value) => .ok (.float value, text.drop word.length)
      | none => malformed

/-- Read a value that is neither a string nor a list nor a table. -/
def bareScalar : Reader Value := fun text =>
  if "true".toList.isPrefixOf text then
    .ok (.bool true, text.drop 4)
  else if "false".toList.isPrefixOf text then
    .ok (.bool false, text.drop 5)
  else
    match moment? text with
    | some (.ok (moment, rest)) => .ok (.moment moment, rest)
    | some (.error failure) => .error failure
    | none => number text

end HtmlJsx.Toml
