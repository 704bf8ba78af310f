import HtmlJsx.Text.Basic

/-!
# Tokens of markup

A token is what a stretch of markup stands for: characters, the start or
end of an element, a comment, or one of the special constructs.  Adjacent
character tokens are pieces of one run of text.
-/

namespace HtmlJsx

/-- The attributes of an element in source order. -/
abbrev Attributes := List (Text × Text)

/-- A unit of markup. -/
inductive Token where
  /-- Characters, with references resolved. -/
  | text (characters : Text)
  /-- The start of an element. -/
  | start (name : Text) (attributes : Attributes)
  /-- An element written as one tag that closes itself. -/
  | selfClosed (name : Text) (attributes : Attributes)
  /-- The end of an element. -/
  | stop (name : Text)
  /-- A comment, without its delimiters. -/
  | comment (content : Text)
  /-- A document type, without the introducing word. -/
  | doctype (content : Text)
  /-- A processing instruction. -/
  | instruction (content : Text)
  /-- A section of character data. -/
  | cdata (content : Text)
  /-- Any other marked section. -/
  | declaration (content : Text)
  deriving Repr, DecidableEq

/-- Why markup is refused. -/
inductive MarkupFault where
  /-- A marked section without a name; the markup from its start is shown. -/
  | unnamedSection (excerpt : Text)
  /-- A marked section with a name that is no keyword. -/
  | unknownSection (keyword : Text)
  /-- A decimal character reference with more digits than may be read. -/
  | tooManyDigits
  deriving Repr, DecidableEq

end HtmlJsx
