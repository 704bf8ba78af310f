import HtmlJsx.Text.Quoted

/-!
# UTF-8

Octets as characters.  The first octet of a character fixes how many
octets follow and between which bounds the second one lies.  A decoding that
fails says at which octets, and whether the first of them cannot begin a
character, a later one cannot continue it, or the octets end too early.
-/

namespace HtmlJsx.Utf8

/-- Why octets are no text. -/
inductive Complaint where
  | invalidStart
  | invalidContinuation
  | unexpectedEnd
  deriving Repr, DecidableEq

/-- A failed decoding: how many octets precede the failing ones, how many fail, and the first. -/
structure Failure where
  complaint : Complaint
  position : Nat
  count : Nat
  octet : UInt8
  deriving Repr, DecidableEq

/-- The words of a complaint. -/
def Complaint.message : Complaint → String
  | .invalidStart => "invalid start byte"
  | .invalidContinuation => "invalid continuation byte"
  | .unexpectedEnd => "unexpected end of data"

/-- The message of a failed decoding. -/
def Failure.message (failure : Failure) : Text :=
  let place :=
    if failure.count = 1 then
      "byte 0x".toList ++ Text.hexDigits 2 failure.octet.toNat ++
        s!" in position {failure.position}".toList
    else
      s!"bytes in position {failure.position}-{failure.position + failure.count - 1}".toList
  "'utf-8' codec can't decode ".toList ++ place ++ (": " ++ failure.complaint.message).toList

/-- What follows a first octet: how many octets, and the bounds of the second one. -/
structure Lead where
  following : Nat
  low : Nat
  high : Nat

/-- What follows a first octet of a character with several; absent if it cannot begin one. -/
def lead? (octet : Nat) : Option Lead :=
  if 0xC2 ≤ octet ∧ octet ≤ 0xDF then some ⟨1, 0x80, 0xBF⟩
  else if octet = 0xE0 then some ⟨2, 0xA0, 0xBF⟩
  else if octet = 0xED then some ⟨2, 0x80, 0x9F⟩
  else if 0xE1 ≤ octet ∧ octet ≤ 0xEF then some ⟨2, 0x80, 0xBF⟩
  else if octet = 0xF0 then some ⟨3, 0x90, 0xBF⟩
  else if 0xF1 ≤ octet ∧ octet ≤ 0xF3 then some ⟨3, 0x80, 0xBF⟩
  else if octet = 0xF4 then some ⟨3, 0x80, 0x8F⟩
  else none

/-- The bits of a first octet that belong to the code of its character. -/
def leadBits (following octet : Nat) : Nat :=
  octet % Nat.pow 2 (6 - following)

/-- A character of which octets are still owed. -/
structure Partial where
  /-- The octets before the character. -/
  position : Nat
  /-- The first octet of the character. -/
  first : UInt8
  /-- The octets read so far. -/
  count : Nat
  /-- The octets still owed. -/
  owed : Nat
  /-- The bounds of the next octet. -/
  low : Nat
  high : Nat
  /-- The code read so far. -/
  code : Nat

/-- Decode octets after a number of octets, with a character begun or not. -/
def decodeFrom : (position : Nat) → Option Partial → List UInt8 → Except Failure Text
  | _, none, [] => .ok []
  | _, some begun, [] => .error ⟨.unexpectedEnd, begun.position, begun.count, begun.first⟩
  | position, none, octet :: rest =>
    if octet.toNat < 0x80 then
      (decodeFrom (position + 1) none rest).map (Char.ofNat octet.toNat :: ·)
    else
      match lead? octet.toNat with
      | none => .error ⟨.invalidStart, position, 1, octet⟩
      | some lead =>
        decodeFrom (position + 1)
          (some ⟨position, octet, 1, lead.following, lead.low, lead.high,
            leadBits lead.following octet.toNat⟩) rest
  | position, some begun, octet :: rest =>
    if begun.low ≤ octet.toNat ∧ octet.toNat ≤ begun.high then
      let code := begun.code * 64 + octet.toNat % 64
      if begun.owed ≤ 1 then
        (decodeFrom (position + 1) none rest).map (Char.ofNat code :: ·)
      else
        decodeFrom (position + 1)
          (some { begun with count := begun.count + 1, owed := begun.owed - 1, low := 0x80,
                             high := 0xBF, code }) rest
    else
      .error ⟨.invalidContinuation, begun.position, begun.count, begun.first⟩

/-- The text that octets denote. -/
def decode (octets : List UInt8) : Except Failure Text :=
  decodeFrom 0 none octets

/-- The octets of a text. -/
def encode (text : Text) : List UInt8 :=
  text.flatMap String.utf8EncodeChar

end HtmlJsx.Utf8
