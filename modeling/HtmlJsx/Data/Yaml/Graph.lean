import HtmlJsx.Data.Yaml.Schema

/-!
# The graph of a YAML document

The nodes of a document are scalars, lists and maps, each with its tag.  A
node can be a part of several others, and even of itself, so nodes refer to
their parts by number.

An entry of a map whose key has the tag of merging brings the entries of
other maps into the map.  Merging puts them before its own entries, so that
these win where a key occurs twice.
-/

namespace HtmlJsx.Yaml

/-- The number of a node in its graph. -/
abbrev NodeId := Nat

/-- An entry of a map: the nodes of its key and of its value. -/
abbrev Entry := NodeId × NodeId

/-- What a node holds. -/
inductive Content where
  | scalar (text : Text)
  | list (items : List NodeId)
  | map (entries : List Entry)
  deriving Repr, DecidableEq

/-- A node of a document. -/
structure Node where
  tag : Text
  content : Content
  deriving Repr, DecidableEq

/-- The nodes of a document by number. -/
structure Graph where
  nodes : Array Node := #[]

namespace Graph

/-- The number of nodes. -/
def size (graph : Graph) : Nat := graph.nodes.size

/-- Add a node; its number is the former size. -/
def add (graph : Graph) (node : Node) : Graph :=
  ⟨graph.nodes.push node⟩

/-- The tag of a node. -/
def tag (graph : Graph) (id : NodeId) : Text :=
  (graph.nodes[id]?.map (·.tag)).getD []

/-- What a node holds. -/
def content (graph : Graph) (id : NodeId) : Content :=
  (graph.nodes[id]?.map (·.content)).getD (.scalar [])

/-- The entries of a map; other nodes have none. -/
def entries (graph : Graph) (id : NodeId) : List Entry :=
  match graph.content id with
  | .map entries => entries
  | _ => []

/-- Give a node another tag. -/
def setTag (graph : Graph) (id : NodeId) (tag : Text) : Graph :=
  ⟨graph.nodes.modify id fun node => { node with tag }⟩

/-- Make a node hold something else. -/
def setContent (graph : Graph) (id : NodeId) (content : Content) : Graph :=
  ⟨graph.nodes.modify id fun node => { node with content }⟩

/-! ## Merging -/

/-- The entries of maps, those of the last map first. -/
def mergedItems (deeper : Graph → NodeId → Except Failure Graph) :
    List NodeId → Graph → Except Failure (List Entry × Graph)
  | [], graph => .ok ([], graph)
  | item :: rest, graph =>
    match graph.content item with
    | .map _ => do
      let graph ← deeper graph item
      let source := graph.entries item
      let (others, graph) ← mergedItems deeper rest graph
      return (others ++ source, graph)
    | _ => malformed

/-- The entries of a map, or of a list of maps of which the earlier win. -/
def mergedFrom (deeper : Graph → NodeId → Except Failure Graph) (graph : Graph) (id : NodeId) :
    Except Failure (List Entry × Graph) :=
  match graph.content id with
  | .map _ => do
    let graph ← deeper graph id
    return (graph.entries id, graph)
  | .list items => mergedItems deeper items graph
  | .scalar _ => malformed

/--
Carry out the merging of a map.  The last argument but one lists the entries
that have not been looked at, `own` those that have, the latest first, and
`merged` those that come from other maps.  A map that is merged into itself
has no entries left to be looked at afterwards.  A key with the tag of a
default value is a text here.
-/
def mergeEntries (deeper : Graph → NodeId → Except Failure Graph) (id : NodeId) :
    (own merged : List Entry) → List Entry → Graph → Except Failure Graph
  | own, merged, [], graph => .ok (graph.setContent id (.map (merged ++ own.reverse)))
  | own, merged, (key, value) :: rest, graph =>
    if graph.tag key = coreTag "merge" then do
      let remaining := own.reverse ++ rest
      let (source, graph) ← mergedFrom deeper (graph.setContent id (.map remaining)) value
      if graph.entries id = remaining then
        mergeEntries deeper id own (merged ++ source) rest graph
      else
        return graph.setContent id (.map (merged ++ source ++ graph.entries id))
    else if graph.tag key = coreTag "value" then
      mergeEntries deeper id ((key, value) :: own) merged rest (graph.setTag key (coreTag "str"))
    else
      mergeEntries deeper id ((key, value) :: own) merged rest graph

/-- Carry out the merging of a map; the fuel bounds its depth. -/
def merge : (fuel : Nat) → Graph → NodeId → Except Failure Graph
  | 0, graph, _ => .ok graph
  | fuel + 1, graph, id => mergeEntries (merge fuel) id [] [] (graph.entries id) graph

/-- The number of entries of all maps; every level of merging uses up one of them. -/
def entryCount (graph : Graph) : Nat :=
  graph.nodes.foldl (fun count node =>
    match node.content with
    | .map entries => count + entries.length
    | _ => count) 0

/-! ## Scalars -/

/--
The text of a scalar; a map stands for the scalar of its default value.  The
fuel bounds the depth, which has no end if a map is its own default value.
-/
def scalarText (graph : Graph) : (fuel : Nat) → NodeId → Except Failure Text
  | 0, _ => .error (.fault .endless)
  | fuel + 1, id =>
    match graph.content id with
    | .scalar text => .ok text
    | .list _ => malformed
    | .map entries =>
      match entries.find? fun entry => graph.tag entry.1 = coreTag "value" with
      | some entry => scalarText graph fuel entry.2
      | none => malformed

/-- The value of a node whose tag names a kind of scalars; a moment must be written directly. -/
def scalarValue (graph : Graph) (id : NodeId) : Except Failure Value := do
  let tag := graph.tag id
  if scalarTags.contains tag then
    let text ← graph.scalarText (graph.size + 1) id
    match graph.content id with
    | .scalar _ => taggedValue tag text
    | _ => if tag = coreTag "timestamp" then .error (.fault .kind) else taggedValue tag text
  else
    malformed

end Graph

end HtmlJsx.Yaml
