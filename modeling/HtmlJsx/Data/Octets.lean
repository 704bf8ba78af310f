import HtmlJsx.Text.Quoted

/-!
# Octets

A document can hold octets that are no text.  They are written in base
sixty-four: a letter carries six bits, four letters make three octets, and
equals signs fill up the last four.  Other characters are passed over.
-/

namespace HtmlJsx.Octets

/-- The six bits that a letter carries. -/
def letterValue? (c : Char) : Option Nat :=
  if c.isUpper then some (c.toNat - 65)
  else if c.isLower then some (c.toNat - 97 + 26)
  else if c.isDigit then some (c.toNat - 48 + 52)
  else if c = '+' then some 62
  else if c = '/' then some 63
  else none

/--
Read letters.  `count` letters of the current four have been read, `held` is
what the last of them leaves over, and `fills` equals signs follow it.  Once
the four are filled up, what comes after them does not count; letters that
are left over at the end are refused.
-/
def decodeFrom : (count held fills : Nat) → Text → Option (List UInt8)
  | count, _, _, [] => if count = 0 then some [] else none
  | count, held, fills, c :: rest =>
    if c = '=' then
      if count < 2 then decodeFrom count held fills rest
      else if 4 ≤ count + fills + 1 then some []
      else decodeFrom count held (fills + 1) rest
    else
      match letterValue? c, count with
      | none, _ => decodeFrom count held fills rest
      | some bits, 0 => decodeFrom 1 bits 0 rest
      | some bits, 1 =>
        (decodeFrom 2 (bits % 16) 0 rest).map (UInt8.ofNat (held * 4 + bits / 16) :: ·)
      | some bits, 2 =>
        (decodeFrom 3 (bits % 4) 0 rest).map (UInt8.ofNat (held * 16 + bits / 4) :: ·)
      | some bits, _ => (decodeFrom 0 0 0 rest).map (UInt8.ofNat (held * 64 + bits) :: ·)

/-- The octets that a text in base sixty-four denotes. -/
def decode? (text : Text) : Option (List UInt8) := decodeFrom 0 0 0 text

/-- How one octet is shown between the given quote marks. -/
def displayOctet (mark : Char) (octet : UInt8) : Text :=
  if octet.toNat < 128 then Text.quotedChar mark (Char.ofNat octet.toNat)
  else '\\' :: 'x' :: Text.hexDigits 2 octet.toNat

/-- Octets as they are shown in a message. -/
def display (octets : List UInt8) : Text :=
  let mark := Text.quoteMark (octets.map fun octet => Char.ofNat octet.toNat)
  'b' :: mark :: octets.flatMap (displayOctet mark) ++ [mark]

end HtmlJsx.Octets
