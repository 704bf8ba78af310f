import HtmlJsx.Dom.Source
import HtmlJsx.Text.Literal

/-!
# Passages of text

JSX reads braces as the delimiters of expressions and folds white space.  A
passage of running text therefore has its braces wrapped in expressions and
its line breaks replaced by the layout of the place where it stands.  In a
preformatted passage white space counts, so every line break, tab, brace and
run of spaces becomes a string expression.
-/

namespace HtmlJsx.Passage

/-- Escape a character of text: the specials of markup and the no-break space. -/
def escapeChar (c : Char) : Text :=
  if c = '\u00a0' then "&nbsp;".toList else Source.escapeChar c

/-- Escape a text. -/
def escape (text : Text) : Text :=
  text.flatMap escapeChar

/-- A string expression that denotes a text. -/
def expression (text : Text) : Text :=
  '{' :: Text.literal text ++ ['}']

/-- A run of spaces: a single space stands for itself, a longer run needs an expression. -/
def spaces (count : Nat) : Text :=
  if 2 ≤ count then expression (List.replicate count ' ') else List.replicate count ' '

/-- Whether a character of preformatted text needs an expression of its own. -/
def isGuarded (c : Char) : Bool :=
  c == '\n' || c == '\t' || c == '{' || c == '}'

/-- Guard an escaped text whose reading has passed over some spaces not written yet. -/
def guardFrom : (pending : Nat) → Text → Text
  | pending, [] => spaces pending
  | pending, c :: rest =>
    if c = ' ' then
      guardFrom (pending + 1) rest
    else
      spaces pending ++ (if isGuarded c then expression [c] else [c]) ++ guardFrom 0 rest

/-- A passage of preformatted text; carriage returns are dropped. -/
def preformatted (text : Text) : Text :=
  guardFrom 0 ((escape text).filter (· != '\r'))

/-- Wrap a brace in an expression. -/
def guardBrace (c : Char) : Text :=
  if c = '{' ∨ c = '}' then ['{', '\'', c, '\'', '}'] else [c]

/--
Replace every line break together with the blanks that follow it.  The flag
says that the blanks at the beginning belong to a line break already
replaced.
-/
def reflow (lineBreak : Text) : (skipping : Bool) → Text → Text
  | _, [] => []
  | skipping, c :: rest =>
    if skipping && isBlank c then
      reflow lineBreak true rest
    else if c = '\n' then
      lineBreak ++ reflow lineBreak true rest
    else
      c :: reflow lineBreak false rest

/-- A passage of running text before its layout. -/
def guarded (text : Text) : Text :=
  (escape text).flatMap guardBrace

/-- A passage of running text whose line breaks are written as given. -/
def running (lineBreak text : Text) : Text :=
  reflow lineBreak false (guarded text)

/-- A comment; an end mark inside it is broken up. -/
def comment (content : Text) : Text :=
  "\x7b/*".toList ++ Text.replace ['*', '/'] ['*', ' ', '/'] content ++ "*/\x7d".toList

end HtmlJsx.Passage
