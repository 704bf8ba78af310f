import HtmlJsx.Data.Yaml.Mark
import HtmlJsx.Data.Yaml.Scalar

/-!
# The layout of a YAML document

Turning a document into tokens.  Outside brackets the columns decide where
blocks begin and end.  A key need not be marked as such: every node that
might be one is remembered, one for each depth of brackets, until a colon
makes it a key or the line ends.
-/

namespace HtmlJsx.Yaml

/-- A node that may turn out to be a key. -/
structure PendingKey where
  /-- The number of tokens before it. -/
  position : Nat
  /-- Whether the layout requires that it is a key. -/
  required : Bool
  index : Nat
  line : Nat
  column : Nat

/-- The state of the reading of a document. -/
structure Layout where
  cursor : Cursor
  tokens : List Token := []
  /-- How many brackets and braces are open. -/
  depth : Nat := 0
  /-- The column of the current block. -/
  indent : Int := -1
  /-- The columns of the blocks around it. -/
  outer : List Int := []
  /-- Whether a key may begin at the cursor. -/
  keyAllowed : Bool := true
  /-- The nodes that may turn out to be keys, by depth. -/
  keys : List (Nat × PendingKey) := []

namespace Layout

/-- Add a token. -/
def emit (layout : Layout) (token : Token) : Layout :=
  { layout with tokens := layout.tokens ++ [token] }

/-- Add a token and pass over the characters that make it. -/
def take (layout : Layout) (token : Token) (count : Nat) : Layout :=
  { layout.emit token with cursor := layout.cursor.skip count }

/-- Whether the cursor is inside brackets or braces. -/
def inFlow (layout : Layout) : Bool := layout.depth != 0

/-- Pass over space, comments and line breaks; a key may begin a line outside brackets. -/
def skipGaps : (fuel : Nat) → Layout → Layout
  | 0, layout => layout
  | fuel + 1, layout =>
    let ready := layout.cursor.skipSpaces.skipComment
    match ready.lineBreak with
    | ([], _) => { layout with cursor := ready }
    | (_, next) =>
      skipGaps fuel
        { layout with cursor := next, keyAllowed := layout.keyAllowed || !layout.inFlow }

/-- The largest number of characters that an unmarked key may have. -/
def keyLimit : Nat := 1024

/-- Whether a pending key can no longer be one. -/
def isStale (cursor : Cursor) (key : PendingKey) : Bool :=
  key.line != cursor.line || keyLimit < cursor.index - key.index

/-- Forget the pending keys that can no longer be keys; a required one must not be lost. -/
def dropStale (layout : Layout) : Except Failure Layout :=
  if layout.keys.any fun entry => isStale layout.cursor entry.2 && entry.2.required then
    malformed
  else
    .ok { layout with keys := layout.keys.filter fun entry => !isStale layout.cursor entry.2 }

/-- Forget the pending key of the current depth; a required one must not be lost. -/
def dropKey (layout : Layout) : Except Failure Layout :=
  match layout.keys.lookup layout.depth with
  | some key =>
    if key.required then malformed
    else .ok { layout with keys := layout.keys.filter fun entry => entry.1 != layout.depth }
  | none => .ok layout

/-- Remember the node at the cursor as a possible key. -/
def saveKey (layout : Layout) : Except Failure Layout :=
  if layout.keyAllowed then do
    let ready ← layout.dropKey
    let key : PendingKey :=
      { position := ready.tokens.length
        required := !ready.inFlow && ready.indent == (ready.cursor.column : Int)
        index := ready.cursor.index
        line := ready.cursor.line
        column := ready.cursor.column }
    return { ready with keys := (ready.depth, key) :: ready.keys }
  else
    .ok layout

/-- Close the blocks that are indented further than a column. -/
def unwindTo (column : Int) : List Int → Layout → Layout
  | [], layout => layout
  | outer :: rest, layout =>
    if column < layout.indent then
      unwindTo column rest { layout.emit .blockEnd with indent := outer, outer := rest }
    else
      layout

/-- Close the blocks that are indented further than a column, outside brackets. -/
def unwind (column : Int) (layout : Layout) : Layout :=
  if layout.inFlow then layout else unwindTo column layout.outer layout

/-- Begin a block at a column if it is indented further than the current one. -/
def beginBlock (layout : Layout) (column : Nat) (token : Token) : Layout :=
  if layout.indent < column then
    { layout.emit token with indent := column, outer := layout.indent :: layout.outer }
  else
    layout

/-- End everything before a mark that concerns whole documents. -/
def endBlocks (layout : Layout) : Except Failure Layout := do
  let ready ← (layout.unwind (-1)).dropKey
  return { ready with keyAllowed := false }

/-- A bracket or brace that opens. -/
def openFlow (layout : Layout) (token : Token) : Except Failure Layout := do
  let ready ← layout.saveKey
  return { ready.take token 1 with depth := ready.depth + 1, keyAllowed := true }

/-- A bracket or brace that closes. -/
def closeFlow (layout : Layout) (token : Token) : Except Failure Layout := do
  let ready ← layout.dropKey
  if ready.depth = 0 then malformed
  else return { ready.take token 1 with depth := ready.depth - 1, keyAllowed := false }

/-- A comma. -/
def separate (layout : Layout) : Except Failure Layout := do
  let ready ← layout.dropKey
  return { ready.take .comma 1 with keyAllowed := true }

/-- Outside brackets, begin a block at the cursor where one may begin. -/
def beginHere (layout : Layout) (token : Token) : Except Failure Layout :=
  if layout.inFlow then .ok layout
  else if layout.keyAllowed then .ok (layout.beginBlock layout.cursor.column token)
  else malformed

/-- A dash that begins an item. -/
def item (layout : Layout) : Except Failure Layout := do
  let ready ← (← layout.beginHere .blockList).dropKey
  return { ready.take .dash 1 with keyAllowed := true }

/-- A question mark that begins a key. -/
def markedKey (layout : Layout) : Except Failure Layout := do
  let ready ← (← layout.beginHere .blockMap).dropKey
  return { ready.take .key 1 with keyAllowed := !ready.inFlow }

/-- Put a token before the one with a number. -/
def insertToken (layout : Layout) (position : Nat) (token : Token) : Layout :=
  { layout with tokens := layout.tokens.insertIdx position token }

/-- A colon: it makes the pending key a key, or stands after an empty or marked one. -/
def mappedValue (layout : Layout) : Except Failure Layout := do
  match layout.keys.lookup layout.depth with
  | some key =>
    let known := { layout with keys := layout.keys.filter fun entry => entry.1 != layout.depth }
    let marked := known.insertToken key.position .key
    let ready :=
      if !marked.inFlow && marked.indent < (key.column : Int) then
        { marked.insertToken key.position .blockMap with
          indent := key.column, outer := marked.indent :: marked.outer }
      else
        marked
    return { ready.take .value 1 with keyAllowed := false }
  | none =>
    let ready ← (← layout.beginHere .blockMap).dropKey
    return { ready.take .value 1 with keyAllowed := !ready.inFlow }

/-- A node that is read at the cursor and may be a key. -/
def node (layout : Layout) (read : Cursor → Except Failure (Token × Cursor)) :
    Except Failure Layout := do
  let ready ← layout.saveKey
  let (token, cursor) ← read ready.cursor
  return { ready.emit token with cursor, keyAllowed := false }

/-- A scalar written as a block. -/
def blockScalar (layout : Layout) (folding : Bool) : Except Failure Layout := do
  let ready ← layout.dropKey
  let (content, cursor) ← block folding ready.indent ready.cursor.advance
  return { ready.emit (.scalar content false) with cursor, keyAllowed := true }

/-- A plain scalar; if it ends with its line, a key may follow. -/
def plainScalar (layout : Layout) : Except Failure Layout := do
  let ready ← layout.saveKey
  let (content, brokeLine, cursor) := plain ready.inFlow (ready.indent + 1) ready.cursor
  return { ready.emit (.scalar content true) with cursor, keyAllowed := brokeLine }

/-- Whether a plain scalar may begin with a text. -/
def beginsPlain (inFlow : Bool) : Text → Bool
  | [] => false
  | c :: rest =>
    (!isGap c && !("-?:,[]\x7b\x7d#&*!|>'\"%@`".toList.contains c)) ||
      (!atGap rest && (c == '-' || (!inFlow && (c == '?' || c == ':'))))

/-- Read the token at the cursor, which is not at the end. -/
def token (layout : Layout) (c : Char) (rest : Text) : Except Failure Layout := do
  let text := c :: rest
  let atLineStart := layout.cursor.column == 0
  let atMark := atLineStart && atDocumentMark text
  if c == '%' && atLineStart then
    let ready ← layout.endBlocks
    let (found, cursor) ← directive ready.cursor
    return { ready.emit (.directive found) with cursor }
  else if c == '-' && atMark then
    return (← layout.endBlocks).take .documentStart 3
  else if c == '.' && atMark then
    return (← layout.endBlocks).take .documentEnd 3
  else if c == '[' then layout.openFlow .openList
  else if c == '{' then layout.openFlow .openMap
  else if c == ']' then layout.closeFlow .closeList
  else if c == '}' then layout.closeFlow .closeMap
  else if c == ',' then layout.separate
  else if c == '-' && atGap rest then layout.item
  else if c == '?' && (layout.inFlow || atGap rest) then layout.markedKey
  else if c == ':' && (layout.inFlow || atGap rest) then layout.mappedValue
  else if c == '*' then layout.node fun cursor => do
    let (name, after) ← anchorName cursor.advance
    return (.alias name, after)
  else if c == '&' then layout.node fun cursor => do
    let (name, after) ← anchorName cursor.advance
    return (.anchor name, after)
  else if c == '!' then layout.node tag
  else if c == '|' && !layout.inFlow then layout.blockScalar false
  else if c == '>' && !layout.inFlow then layout.blockScalar true
  else if c == '\'' || c == '"' then layout.node fun cursor => do
    let (content, after) ← quoted c cursor
    return (.scalar content false, after)
  else if beginsPlain layout.inFlow text then layout.plainScalar
  else malformed

/-- Read one token; the tokens of the whole document once it is at its end. -/
def step (layout : Layout) : Except Failure (Layout ⊕ List Token) := do
  let found := skipGaps (layout.cursor.rest.length + 1) layout
  let ready := (← found.dropStale)
  let ready := ready.unwind ready.cursor.column
  match ready.cursor.rest with
  | [] => return .inr ((← ready.endBlocks).tokens ++ [.finish])
  | c :: rest => return .inl (← ready.token c rest)

/-- Read tokens to the end of the document, or to the place where it cannot be read further. -/
def run : (fuel : Nat) → Layout → List Token
  | 0, layout => layout.tokens ++ [.broken .malformed]
  | fuel + 1, layout =>
    match layout.step with
    | .ok (.inl next) => run fuel next
    | .ok (.inr tokens) => tokens
    | .error failure => layout.tokens ++ [.broken failure]

end Layout

/-- A byte order mark before a document is passed over. -/
def dropByteOrderMark (cursor : Cursor) : Cursor :=
  if cursor.rest.head? == some '\ufeff' then cursor.advance else cursor

/-- The tokens of a document. -/
def tokens (text : Text) : List Token :=
  Layout.run (text.length + 2) { cursor := dropByteOrderMark { rest := text } }

end HtmlJsx.Yaml
