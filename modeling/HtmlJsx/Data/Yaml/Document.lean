import HtmlJsx.Data.Yaml.Layout
import HtmlJsx.Data.Yaml.Node
import HtmlJsx.Data.Yaml.Sense

/-!
# YAML documents

A stream that holds one document at most, and the value that the document
denotes.
-/

namespace HtmlJsx.Yaml

/-- Whether a character may stand in a document. -/
def isPrintable (c : Char) : Bool :=
  c == '\t' || c == '\n' || c == '\r' || c == '\u0085' || (' ' ≤ c && c ≤ '~') ||
    (0xA0 ≤ c.toNat && c.toNat ≤ 0xD7FF) || (0xE000 ≤ c.toNat && c.toNat ≤ 0xFFFD) ||
    0x10000 ≤ c.toNat

/-- The handles that every document knows. -/
def coreHandles : List (Text × Text) :=
  [(['!'], ['!']), (['!', '!'], coreTag "")]

/-- Take up the directives before a document; each is given once, and the major version is one. -/
def directives : (version : Bool) → List (Text × Text) → List Token →
    Except Failure (List (Text × Text) × List Token)
  | version, handles, .directive directive :: rest =>
    match directive with
    | .version major _ => if version || major != 1 then malformed else directives true handles rest
    | .handle name target =>
      if (handles.lookup name).isSome then malformed
      else directives version ((name, target) :: handles) rest
    | .other => directives version handles rest
  | _, handles, tokens => .ok (handles ++ coreHandles, tokens)

/-- Read the node of a document. -/
def documentNode (handles : List (Text × Text)) (tokens : List Token) :
    Except Failure (NodeId × Stream) :=
  node handles (4 * tokens.length + 4) .block { tokens }

/-- Read the node of a document after the mark of its start; it may be absent. -/
def documentContent (handles : List (Text × Text)) (tokens : List Token) :
    Except Failure (NodeId × Stream) :=
  match tokens with
  | .directive _ :: _ => .ok (Stream.addAbsent { tokens })
  | .documentStart :: _ => .ok (Stream.addAbsent { tokens })
  | .documentEnd :: _ => .ok (Stream.addAbsent { tokens })
  | .finish :: _ => .ok (Stream.addAbsent { tokens })
  | _ => documentNode handles tokens

/-- Read a document at its directives or the mark of its start. -/
def explicitDocument (tokens : List Token) : Except Failure (NodeId × Stream) := do
  let (handles, rest) ← directives false [] tokens
  match rest with
  | .documentStart :: content => documentContent handles content
  | _ => Stream.unexpected { tokens := rest }

/-- The only document of a stream: its graph and outermost node, if the stream is not empty. -/
def singleNode (tokens : List Token) : Except Failure (Option (Graph × NodeId)) := do
  match tokens with
  | .finish :: _ => return none
  | _ =>
    let (root, stream) ← match tokens with
      | .directive _ :: _ => explicitDocument tokens
      | .documentStart :: _ => explicitDocument tokens
      | _ => documentNode coreHandles tokens
    match stream.tokens.dropWhile (· == .documentEnd) with
    | .finish :: _ => return some (stream.graph, root)
    | rest => Stream.unexpected { tokens := rest }

/-- Read a document; nothing is null. -/
def document (text : Text) : Except Failure Value := do
  if text.all isPrintable then
    match ← singleNode (tokens text) with
    | none => return .null
    | some (graph, root) => return (← Interpretation.complete graph root).value root
  else
    malformed

end HtmlJsx.Yaml
