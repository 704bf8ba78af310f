import HtmlJsx.Data.Yaml.Cursor

/-!
# YAML tokens

The parts of a document.  Blocks are delimited by tokens that stand for
changes of the indentation, so that a reader of tokens need not look at
columns.
-/

namespace HtmlJsx.Yaml

/-- An instruction to the reader of a document. -/
inductive Directive where
  | version (major minor : Nat)
  | handle (name target : Text)
  | other
  deriving Repr, DecidableEq

/-- A part of a document. -/
inductive Token where
  | directive (directive : Directive)
  | documentStart
  | documentEnd
  | blockList
  | blockMap
  | blockEnd
  | openList
  | closeList
  | openMap
  | closeMap
  | comma
  | dash
  | key
  | value
  | alias (name : Text)
  | anchor (name : Text)
  | tag (handle : Option Text) (suffix : Text)
  | scalar (content : Text) (plain : Bool)
  /-- The end of the stream. -/
  | finish
  /-- The place where the stream cannot be read further. -/
  | broken (failure : Failure)
  deriving Repr, DecidableEq

end HtmlJsx.Yaml
