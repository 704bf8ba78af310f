import HtmlJsx.Data.Value
import HtmlJsx.Number.Spelling
import HtmlJsx.Text.Case

/-!
# JSON documents

A reader of JSON that says where a document goes wrong.  Beyond the
standard it accepts `NaN` and the infinities.  Of equal keys in an object
the first gives the place and the last the value.

A reader works on the characters that remain and a complaint names the
place where it arises by their number, so no reader keeps count of lines.
-/

namespace HtmlJsx.Json

/-- What is wrong at a place of a document. -/
inductive Complaint where
  | byteOrderMark
  | noValue
  | noPropertyName
  | noColon
  | noComma
  | extraData
  | unterminatedString
  | controlCharacter
  | badEscape
  | badCodeEscape
  deriving Repr, DecidableEq

/-- The words of a complaint. -/
def Complaint.message : Complaint → Text
  | .byteOrderMark => "Unexpected UTF-8 BOM (decode using utf-8-sig)".toList
  | .noValue => "Expecting value".toList
  | .noPropertyName => "Expecting property name enclosed in double quotes".toList
  | .noColon => "Expecting ':' delimiter".toList
  | .noComma => "Expecting ',' delimiter".toList
  | .extraData => "Extra data".toList
  | .unterminatedString => "Unterminated string starting at".toList
  | .controlCharacter => "Invalid control character at".toList
  | .badEscape => "Invalid \\escape".toList
  | .badCodeEscape => "Invalid \\uXXXX escape".toList

/-- Why a document cannot be read. -/
inductive Failure where
  /-- A complaint about the place where the given number of characters remain. -/
  | syntaxError (complaint : Complaint) (remaining : Nat)
  /-- An integer has more digits than may be read. -/
  | tooManyDigits
  deriving Repr, DecidableEq

/-- A complaint about the place where some characters remain. -/
def complain {α : Type} (complaint : Complaint) (rest : Text) : Except Failure α :=
  .error (.syntaxError complaint rest.length)

/-- Whether a character may stand between tokens. -/
def isSpace (c : Char) : Bool :=
  c == ' ' || c == '\t' || c == '\n' || c == '\r'

/-- Pass over the space between tokens. -/
def skipSpace (text : Text) : Text :=
  text.dropWhile isSpace

/-- The character that a letter after a backslash denotes. -/
def escapedChar? (c : Char) : Option Char :=
  if c = '"' ∨ c = '\\' ∨ c = '/' then some c
  else if c = 'b' then some (Char.ofNat 8)
  else if c = 'f' then some (Char.ofNat 12)
  else if c = 'n' then some '\n'
  else if c = 'r' then some '\r'
  else if c = 't' then some '\t'
  else none

/-- The number of four hexadecimal digits, and what follows; one more character must follow. -/
def codeUnit? : Text → Option (Nat × Text)
  | a :: b :: c :: d :: next :: rest =>
    if [a, b, c, d].all Text.isHexDigit then
      some (Binary64.readDigits 16 [a, b, c, d], next :: rest)
    else
      none
  | _ => none

/-- Whether a code is the first half of a pair. -/
def isHighHalf (code : Nat) : Bool := 0xD800 ≤ code && code ≤ 0xDBFF

/-- Whether a code is the second half of a pair. -/
def isLowHalf (code : Nat) : Bool := 0xDC00 ≤ code && code ≤ 0xDFFF

/-- The character of a code; half a pair has none and is replaced. -/
def charOfCode (code : Nat) : Char :=
  if isHighHalf code || isLowHalf code then Char.ofNat 0xFFFD else Char.ofNat code

/-- The character of a code escape, given what follows the letter `u`, with the rest. -/
def codeEscape (text : Text) : Except Failure (Char × Text) :=
  match codeUnit? text with
  | none => .error (.syntaxError .badCodeEscape (text.length + 1))
  | some (high, rest) =>
    match rest with
    | '\\' :: 'u' :: more =>
      if isHighHalf high && 4 < more.length then
        match codeUnit? more with
        | none => .error (.syntaxError .badCodeEscape (more.length + 1))
        | some (low, after) =>
          if isLowHalf low then
            .ok (Char.ofNat (0x10000 + (high - 0xD800) * 0x400 + (low - 0xDC00)), after)
          else
            .ok (charOfCode high, rest)
      else
        .ok (charOfCode high, rest)
    | _ => .ok (charOfCode high, rest)

/--
Read a string after its opening quote.  The fuel bounds the number of
characters, and `start` is what remained at the opening quote.
-/
def stringFrom (start : Nat) : (fuel : Nat) → Text → Text → Except Failure (Text × Text)
  | 0, _, _ => .error (.syntaxError .unterminatedString start)
  | _ + 1, _, [] => .error (.syntaxError .unterminatedString start)
  | fuel + 1, content, c :: rest =>
    if c = '"' then
      .ok (content.reverse, rest)
    else if c = '\\' then
      match rest with
      | [] => .error (.syntaxError .unterminatedString start)
      | 'u' :: code => do
        let (decoded, after) ← codeEscape code
        stringFrom start fuel (decoded :: content) after
      | letter :: after =>
        match escapedChar? letter with
        | some decoded => stringFrom start fuel (decoded :: content) after
        | none => complain .badEscape (c :: rest)
    else if c.toNat < 0x20 then
      complain .controlCharacter (c :: rest)
    else
      stringFrom start fuel (c :: content) rest

/-- Read a string after its opening quote. -/
def string (text : Text) : Except Failure (Text × Text) :=
  stringFrom (text.length + 1) (text.length + 1) [] text

/-- The digits of the whole part of a number: a zero alone, or digits that begin with none. -/
def wholeDigits? (text : Text) : Option (Text × Text) :=
  match text with
  | '0' :: rest => some (['0'], rest)
  | _ =>
    let digits := text.takeWhile Char.isDigit
    if digits.isEmpty then none else some (digits, text.dropWhile Char.isDigit)

/-- The digits after a point, none if no digit follows it. -/
def fractionDigits : Text → Text × Text
  | '.' :: rest =>
    let digits := rest.takeWhile Char.isDigit
    if digits.isEmpty then ([], '.' :: rest) else (digits, rest.dropWhile Char.isDigit)
  | text => ([], text)

/-- The exponent after its mark, absent if no digits follow. -/
def exponent? : Text → Option (Int × Text)
  | [] => none
  | mark :: rest =>
    if mark = 'e' ∨ mark = 'E' then
      let (negative, unsigned) := Spelling.splitSign rest
      let digits := unsigned.takeWhile Char.isDigit
      if digits.isEmpty then
        none
      else
        let size : Int := Binary64.readDigits 10 digits
        some (if negative then -size else size, unsigned.dropWhile Char.isDigit)
    else
      none

/-- Read a number. -/
def number (text : Text) : Except Failure (Value × Text) :=
  let (negative, unsigned) :=
    match text with
    | '-' :: rest => (true, rest)
    | _ => (false, text)
  match wholeDigits? unsigned with
  | none => complain .noValue text
  | some (whole, afterWhole) =>
    let (fraction, afterFraction) := fractionDigits afterWhole
    match exponent? afterFraction with
    | some (exponent, rest) =>
      let number := Binary64.ofDecimal negative (whole ++ fraction) (exponent - fraction.length)
      .ok (.float number, rest)
    | none =>
      if fraction.isEmpty then
        if Spelling.digitLimit < whole.length then
          .error .tooManyDigits
        else
          let size : Int := Binary64.readDigits 10 whole
          .ok (.int (if negative then -size else size), afterFraction)
      else
        .ok (.float (Binary64.ofDecimal negative (whole ++ fraction) (-fraction.length)),
          afterFraction)

/-- The words that stand for values. -/
def words : List (Text × Value) :=
  [("null".toList, .null), ("true".toList, .bool true), ("false".toList, .bool false),
    ("NaN".toList, .float .nan), ("Infinity".toList, .float (.infinite false)),
    ("-Infinity".toList, .float (.infinite true))]

/-- The word that a text begins with, and what follows. -/
def word? (text : Text) : Option (Value × Text) :=
  words.findSome? fun (word, value) =>
    if word.isPrefixOf text then some (value, text.drop word.length) else none

/-- Read a value that holds no other values. -/
def atom (text : Text) : Except Failure (Value × Text) :=
  match word? text with
  | some found => .ok found
  | none => number text

mutual

/-- Read a value.  The fuel bounds the depth and the number of its parts. -/
def value : (fuel : Nat) → Text → Except Failure (Value × Text)
  | 0, text => complain .noValue text
  | fuel + 1, text =>
    match text with
    | '"' :: rest => do
      let (content, after) ← string rest
      return (.text content, after)
    | '[' :: rest =>
      match skipSpace rest with
      | ']' :: after => .ok (.list [], after)
      | first => items fuel [] first
    | '{' :: rest =>
      match skipSpace rest with
      | '}' :: after => .ok (.map [], after)
      | first => entries fuel [] first
    | _ => atom text

/-- Read the items of a list from the start of one of them to the closing bracket. -/
def items : (fuel : Nat) → List Value → Text → Except Failure (Value × Text)
  | 0, _, text => complain .noValue text
  | fuel + 1, found, text => do
    let (item, after) ← value fuel text
    match skipSpace after with
    | ']' :: rest => return (.list (item :: found).reverse, rest)
    | ',' :: rest => items fuel (item :: found) (skipSpace rest)
    | rest => complain .noComma rest

/-- Read the entries of an object from the start of one of them to the closing brace. -/
def entries : (fuel : Nat) → List (Value × Value) → Text → Except Failure (Value × Text)
  | 0, _, text => complain .noValue text
  | fuel + 1, found, text =>
    match text with
    | '"' :: quoted => do
      let (name, afterName) ← string quoted
      match skipSpace afterName with
      | ':' :: afterColon =>
        let (item, after) ← value fuel (skipSpace afterColon)
        let known := Value.setEntry found (.text name) item
        match skipSpace after with
        | '}' :: rest => return (.map known, rest)
        | ',' :: rest => entries fuel known (skipSpace rest)
        | rest => complain .noComma rest
      | rest => complain .noColon rest
    | _ => complain .noPropertyName text

end

/-- Read a document. -/
def document (text : Text) : Except Failure Value :=
  if text.head? = some (Char.ofNat 0xFEFF) then
    complain .byteOrderMark text
  else do
    let (found, rest) ← value (2 * text.length + 2) (skipSpace text)
    match skipSpace rest with
    | [] => return found
    | extra => complain .extraData extra

/-- Where a document goes wrong: the complaint with line, column and number of characters before. -/
def describe (text : Text) (complaint : Complaint) (remaining : Nat) : Text :=
  let position := text.length - remaining
  let before := text.take position
  let line := before.count '\n' + 1
  let column := (before.reverse.takeWhile (· != '\n')).length + 1
  complaint.message ++ s!": line {line} column {column} (char {position})".toList

end HtmlJsx.Json
