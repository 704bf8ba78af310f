import HtmlJsx.Text.Quoted

/-!
# String literals

A text as a double-quoted string literal of a script.  The quote, the
backslash and the control characters below the space are escaped; every
other character stands for itself.
-/

namespace HtmlJsx.Text

/-- How one character is written inside a double-quoted literal. -/
def literalChar (c : Char) : Text :=
  if c = '"' then ['\\', '"']
  else if c = '\\' then ['\\', '\\']
  else if c = '\n' then ['\\', 'n']
  else if c = '\r' then ['\\', 'r']
  else if c = '\t' then ['\\', 't']
  else if c.toNat = 12 then ['\\', 'f']
  else if c.toNat = 8 then ['\\', 'b']
  else if c.toNat < 32 then '\\' :: 'u' :: hexDigits 4 c.toNat
  else [c]

/-- The double-quoted literal that denotes a text. -/
def literal (text : Text) : Text :=
  '"' :: text.flatMap literalChar ++ ['"']

end HtmlJsx.Text
