import HtmlJsx.Data.Yaml.Graph

/-!
# What YAML nodes mean

A tag says what a node means: a scalar of some kind, a list, a map, a set,
or a list of pairs.  Nodes are interpreted level by level from the outside,
so of several faults the outermost is reported.

The senses of collections refer to nodes.  A value is made of them by
unfolding; collections that do not contain themselves are unfolded once, and
the others anew wherever they occur.
-/

namespace HtmlJsx.Yaml

/-- The kinds of collections that tags name. -/
inductive CollectionKind where
  | list
  | pairs
  | set
  | map
  deriving Repr, DecidableEq

/-- The kind of collections that a tag names. -/
def CollectionKind.ofTag? (tag : Text) : Option CollectionKind :=
  [(coreTag "seq", .list), (coreTag "omap", .pairs), (coreTag "pairs", .pairs),
    (coreTag "set", .set), (coreTag "map", .map)].lookup tag

/-- What a node means, where the parts of a collection are nodes. -/
inductive Sense where
  | single (value : Value)
  | list (items : List NodeId)
  | pairs (entries : List Entry)
  | set (members : List Value)
  | map (entries : List (Value × NodeId))

/-- The interpretation of a graph as far as it has come. -/
structure Interpretation where
  graph : Graph
  /-- A bound on the depth of merging. -/
  mergeDepth : Nat
  /-- The senses of nodes by number; those of collections are empty at first. -/
  senses : Array (Option Sense)
  /-- The collections that are still empty, the latest first. -/
  waiting : List NodeId := []

namespace Interpretation

/-- An interpretation of a graph that has not begun. -/
def ofGraph (graph : Graph) : Interpretation :=
  { graph, mergeDepth := graph.entryCount + 1, senses := Array.replicate graph.size none }

/-- The sense of a node that has one. -/
def sense? (state : Interpretation) (id : NodeId) : Option Sense :=
  state.senses[id]?.join

/-- Give a node a sense. -/
def setSense (state : Interpretation) (id : NodeId) (sense : Sense) : Interpretation :=
  { state with senses := state.senses.setIfInBounds id (some sense) }

/-- Come upon a node: a scalar is read at once, a collection has to wait. -/
def visit (state : Interpretation) (id : NodeId) : Except Failure Interpretation :=
  match state.sense? id with
  | some _ => .ok state
  | none =>
    match CollectionKind.ofTag? (state.graph.tag id) with
    | some _ => .ok { state.setSense id (.list []) with waiting := id :: state.waiting }
    | none => do return state.setSense id (.single (← state.graph.scalarValue id))

/-- The value of a node as a key, which is a scalar. -/
def keyOf (state : Interpretation) (id : NodeId) : Except Failure Value :=
  match state.sense? id with
  | some (.single value) => .ok value
  | _ => malformed

/-- Come upon the entries of a map; later values take the place of earlier ones. -/
def visitEntries : List Entry → List (Value × NodeId) → Interpretation →
    Except Failure (List (Value × NodeId) × Interpretation)
  | [], known, state => .ok (known, state)
  | (key, value) :: rest, known, state => do
    let state ← state.visit key
    let name ← state.keyOf key
    let state ← state.visit value
    visitEntries rest (Value.setEntry known name value) state

/-- Come upon the items of a list of pairs: maps with one entry each. -/
def visitPairs : List NodeId → Interpretation → Except Failure (List Entry × Interpretation)
  | [], state => .ok ([], state)
  | item :: rest, state =>
    match state.graph.content item with
    | .map [(key, value)] => do
      let state ← state.visit key
      let state ← state.visit value
      let (entries, state) ← visitPairs rest state
      return ((key, value) :: entries, state)
    | _ => malformed

/-- Come upon the entries of a map after merging. -/
def visitMap (state : Interpretation) (id : NodeId) :
    Except Failure (List (Value × NodeId) × Interpretation) :=
  match state.graph.content id with
  | .map _ => do
    let graph ← state.graph.merge state.mergeDepth id
    visitEntries (graph.entries id) [] { state with graph }
  | _ => malformed

/-- Give a waiting collection its parts. -/
def fill (state : Interpretation) (id : NodeId) : Except Failure Interpretation :=
  match CollectionKind.ofTag? (state.graph.tag id), state.graph.content id with
  | some .list, .list items => do
    return (← items.foldlM visit state).setSense id (.list items)
  | some .pairs, .list items => do
    let (entries, state) ← visitPairs items state
    return state.setSense id (.pairs entries)
  | some .set, _ => do
    let (entries, state) ← state.visitMap id
    return state.setSense id (.set (entries.map (·.1)))
  | some .map, _ => do
    let (entries, state) ← state.visitMap id
    return state.setSense id (.map entries)
  | _, _ => malformed

/-- Fill collections level by level; the fuel bounds the number of levels. -/
def fillAll : (fuel : Nat) → Interpretation → Except Failure Interpretation
  | 0, state => .ok state
  | fuel + 1, state =>
    match state.waiting.reverse with
    | [] => .ok state
    | level => do fillAll fuel (← level.foldlM fill { state with waiting := [] })

/-- The interpretation of the nodes that a node reaches. -/
def complete (graph : Graph) (root : NodeId) : Except Failure Interpretation := do
  fillAll (graph.size + 1) (← (ofGraph graph).visit root)

end Interpretation

/-! ## Values -/

namespace Sense

/-- The value of a sense, once the values of its parts are known. -/
def value? (part : NodeId → Option Value) : Sense → Option Value
  | .single value => some value
  | .list items => do return .list (← items.mapM part)
  | .pairs entries => do
    let pairs ← entries.mapM fun (first, second) => do
      return Value.pair (← part first) (← part second)
    return .list pairs
  | .set members => some (.set members)
  | .map entries => do
    let values ← entries.mapM fun (_, value) => part value
    return .map ((entries.map (·.1)).zip values)

/-- Whether a sense is that of a map. -/
def isMap : Sense → Bool
  | .map _ => true
  | _ => false

end Sense

/-- The values of nodes by number, as far as they are known. -/
abbrev KnownValues := Array (Option Value)

namespace Interpretation

/-- Make the values of nodes whose parts have values, the last node first. -/
def settleOnce (state : Interpretation) (known : KnownValues) : KnownValues :=
  (List.range known.size).foldr (fun id known =>
    match known[id]?.join, state.sense? id with
    | none, some sense =>
      known.setIfInBounds id (sense.value? fun part => known[part]?.join)
    | _, _ => known) known

/-- The number of nodes with known values. -/
def knownCount (known : KnownValues) : Nat :=
  known.foldl (fun count value => if value.isSome then count + 1 else count) 0

/-- Make values until there is nothing to add; the fuel bounds the number of rounds. -/
def settle (state : Interpretation) : (fuel : Nat) → KnownValues → KnownValues
  | 0, known => known
  | fuel + 1, known =>
    let next := state.settleOnce known
    if knownCount next = knownCount known then known else settle state fuel next

/--
The value of a node inside the collections `around`.  One of these is not
unfolded again, so the depth is at most the number of nodes, which is the
fuel to begin with.
-/
def unfold (state : Interpretation) (known : KnownValues) :
    (fuel : Nat) → (around : List NodeId) → NodeId → Option Value
  | 0, _, _ => none
  | fuel + 1, around, id =>
    match known[id]?.join, state.sense? id with
    | some value, _ => some value
    | none, some sense =>
      if around.contains id then some (.again sense.isMap)
      else sense.value? (unfold state known fuel (id :: around))
    | none, none => none

/-- The value of a document: the parts of its outermost collection are unfolded one by one. -/
def value (state : Interpretation) (root : NodeId) : Value :=
  let size := state.graph.size
  let known := state.settle size (Array.replicate size none)
  let part := state.unfold known (size + 1) []
  ((state.sense? root).bind (Sense.value? part)).getD .null

end Interpretation

end HtmlJsx.Yaml
