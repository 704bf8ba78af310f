import HtmlJsx.Markup.NamedCharacter
import HtmlJsx.Markup.Token
import HtmlJsx.Number.Spelling
import HtmlJsx.Text.Case

/-!
# Character references

A reference names a character by number or by name.  Numbers from 128 to
159 mean the characters of the Windows code page, and numbers that are no
characters mean the replacement character.

Inside attribute values references are resolved leniently: a semicolon may
be missing, a name may be followed by further letters, and some characters
that do not belong into a document vanish.
-/

namespace HtmlJsx.Reference

/-- The characters that the Windows code page puts at 128 to 159. -/
def windowsCodes : List Nat :=
  [ 0x20AC, 0x81, 0x201A, 0x192, 0x201E, 0x2026, 0x2020, 0x2021,
    0x2C6, 0x2030, 0x160, 0x2039, 0x152, 0x8D, 0x17D, 0x8F,
    0x90, 0x2018, 0x2019, 0x201C, 0x201D, 0x2022, 0x2013, 0x2014,
    0x2DC, 0x2122, 0x161, 0x203A, 0x153, 0x9D, 0x17E, 0x178 ]

/-- The character that stands for what is none. -/
def replacement : Char := Char.ofNat 0xFFFD

/-- The character with a number; zero, the surrogates and what is too large stand for none. -/
def character (number : Nat) : Char :=
  if number = 0 ∨ 0x10FFFF < number ∨ (0xD800 ≤ number ∧ number ≤ 0xDFFF) then
    replacement
  else if 0x80 ≤ number ∧ number ≤ 0x9F then
    Char.ofNat (windowsCodes.getD (number - 0x80) number)
  else
    Char.ofNat number

/-- Whether a number is that of a character which vanishes from attribute values. -/
def vanishes (number : Nat) : Bool :=
  (1 ≤ number && number ≤ 8) || number == 0xB || (0xE ≤ number && number ≤ 0x1F) ||
    number == 0x7F || (0xFDD0 ≤ number && number ≤ 0xFDEF) ||
    (number ≤ 0x10FFFF && number % 0x10000 ≥ 0xFFFE)

/-- The number that decimal digits denote, within the limit on their count. -/
def decimalNumber (digits : Text) : Except MarkupFault Nat :=
  if Spelling.digitLimit < digits.length then
    .error .tooManyDigits
  else
    .ok (Binary64.readDigits 10 digits)

/-- Whether a character may stand in a name inside an attribute value. -/
def isNameChar (c : Char) : Bool :=
  !(c == '\t' || c == '\n' || c.toNat == 12 || c == ' ' || c == '<' || c == '&' || c == '#' ||
    c == ';')

/-- The longest part of a name, at least two characters but not all of it, that is a legacy name. -/
def legacyStart? (name : Text) : Nat → Option Text
  | 0 => none
  | length + 1 =>
    if length + 1 < 2 then
      none
    else
      match NamedCharacter.legacy? (name.take (length + 1)) with
      | some characters => some (characters ++ name.drop (length + 1))
      | none => legacyStart? name length

/-- What a name in an attribute value stands for; `closed` says whether a semicolon follows it. -/
def named (name : Text) (closed : Bool) : Text :=
  let ending := if closed then [';'] else []
  let whole := if closed then NamedCharacter.any? name else NamedCharacter.legacy? name
  match whole with
  | some characters => characters
  | none =>
    let tried := if closed then name.length else name.length - 1
    match legacyStart? name tried with
    | some characters => characters ++ ending
    | none => '&' :: name ++ ending

/-- The length of a closing semicolon at the start of a text. -/
def semicolon (text : Text) : Nat :=
  if text.head? = some ';' then 1 else 0

/--
The reference that follows an ampersand in an attribute value: how many
characters it takes and what it stands for.
-/
def inAttribute? (text : Text) : Except MarkupFault (Option (Nat × Text)) :=
  match text with
  | '#' :: rest =>
    let hexadecimal := rest.head? = some 'x' ∨ rest.head? = some 'X'
    let lead := if hexadecimal then 2 else 1
    let digits :=
      if hexadecimal then (rest.drop 1).takeWhile Text.isHexDigit else rest.takeWhile Char.isDigit
    if digits.isEmpty then
      .ok none
    else
      let number :=
        if hexadecimal then .ok (Binary64.readDigits 16 digits) else decimalNumber digits
      let used := lead + digits.length
      number.map fun number =>
        some (used + semicolon (text.drop used), if vanishes number then [] else [character number])
  | _ =>
    let name := (text.takeWhile isNameChar).take 32
    if name.isEmpty then
      .ok none
    else
      let closing := semicolon (text.drop name.length)
      .ok (some (name.length + closing, named name (closing == 1)))

/-- Resolve the references of an attribute value, passing over `skip` characters first. -/
def resolveFrom : Nat → Text → Except MarkupFault Text
  | _, [] => .ok []
  | skip + 1, _ :: rest => resolveFrom skip rest
  | 0, c :: rest =>
    if c = '&' then
      match inAttribute? rest with
      | .error fault => .error fault
      | .ok none => (resolveFrom 0 rest).map ('&' :: ·)
      | .ok (some (length, meaning)) => (resolveFrom length rest).map (meaning ++ ·)
    else
      (resolveFrom 0 rest).map (c :: ·)

/-- An attribute value with its references resolved. -/
def resolve (value : Text) : Except MarkupFault Text :=
  resolveFrom 0 value

end HtmlJsx.Reference
