import HtmlJsx.Text.Basic

/-!
# Blank characters

A blank is a character with the whitespace property: the ASCII blanks, the
four information separators, and the Unicode spaces and line separators.
The zero-width space and the byte order mark are not blank.
-/

namespace HtmlJsx

/-- Whether a character is one of the six ASCII blanks. -/
def isAsciiBlank (c : Char) : Bool :=
  c == ' ' || (9 ≤ c.toNat && c.toNat ≤ 13)

/-- Whether a character is white space. -/
def isBlank (c : Char) : Bool :=
  let code := c.toNat
  (9 ≤ code && code ≤ 13) || (0x1C ≤ code && code ≤ 0x20) || code == 0x85 || code == 0xA0 ||
    code == 0x1680 || (0x2000 ≤ code && code ≤ 0x200A) || code == 0x2028 || code == 0x2029 ||
    code == 0x202F || code == 0x205F || code == 0x3000

namespace Text

/-- Whether a text consists of blanks only. -/
def isBlank (text : Text) : Bool :=
  text.all HtmlJsx.isBlank

/-- A text without its leading blanks. -/
def trimLeft (text : Text) : Text :=
  text.dropWhile HtmlJsx.isBlank

/-- A text without its trailing blanks. -/
def trimRight (text : Text) : Text :=
  (text.reverse.dropWhile HtmlJsx.isBlank).reverse

/-- A text without leading and trailing blanks. -/
def trim (text : Text) : Text :=
  trimRight (trimLeft text)

end Text

end HtmlJsx
