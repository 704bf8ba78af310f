import HtmlJsx.Data.Yaml.Graph
import HtmlJsx.Data.Yaml.Token

/-!
# YAML nodes

Tokens are put together to the nodes of a graph.  An anchor gives a node a
name by which an alias refers to it, also from inside the node.  Where the
grammar expects a node and none is written, there is an empty plain scalar.
-/

namespace HtmlJsx.Yaml

/-- The tokens that remain, the nodes that have been read, and the names of some of them. -/
structure Stream where
  tokens : List Token
  graph : Graph := {}
  anchors : List (Text × NodeId) := []

namespace Stream

/-- The grammar does not allow the token that comes next. -/
def unexpected {α : Type} (stream : Stream) : Except Failure α :=
  match stream.tokens with
  | .broken failure :: _ => .error failure
  | _ => malformed

/-- Whether the next token is one of some. -/
def isAt (stream : Stream) (tokens : List Token) : Bool :=
  match stream.tokens with
  | token :: _ => tokens.contains token
  | [] => false

/-- Pass over one token. -/
def next (stream : Stream) : Stream :=
  { stream with tokens := stream.tokens.drop 1 }

/-- Add a node, and its name if it has one; the name must be new. -/
def add (stream : Stream) (anchor : Option Text) (node : Node) :
    Except Failure (NodeId × Stream) :=
  let id := stream.graph.size
  let grown := { stream with graph := stream.graph.add node }
  match anchor with
  | none => .ok (id, grown)
  | some name =>
    if (stream.anchors.lookup name).isSome then malformed
    else .ok (id, { grown with anchors := (name, id) :: stream.anchors })

/-- Add the node that stands where none is written. -/
def addAbsent (stream : Stream) : NodeId × Stream :=
  (stream.graph.size, { stream with graph := stream.graph.add ⟨coreTag "null", .scalar []⟩ })

/-- Complete a node once its parts have been read. -/
def complete (stream : Stream) (id : NodeId) (content : Content) : NodeId × Stream :=
  (id, { stream with graph := stream.graph.setContent id content })

end Stream

/-- What precedes the content of a node. -/
structure Properties where
  anchor : Option Text := none
  tag : Option Text := none

/-- The tag that a handle and a suffix make. -/
def fullTag (handles : List (Text × Text)) (handle : Option Text) (suffix : Text) :
    Except Failure Text :=
  match handle with
  | none => .ok suffix
  | some handle =>
    match handles.lookup handle with
    | some target => .ok (target ++ suffix)
    | none => malformed

/-- Read an anchor and a tag, in either order. -/
def properties (handles : List (Text × Text)) (stream : Stream) :
    Except Failure (Properties × Stream) := do
  match stream.tokens with
  | .anchor anchor :: .tag handle suffix :: rest =>
    return (⟨some anchor, some (← fullTag handles handle suffix)⟩, { stream with tokens := rest })
  | .tag handle suffix :: .anchor anchor :: rest =>
    return (⟨some anchor, some (← fullTag handles handle suffix)⟩, { stream with tokens := rest })
  | .anchor anchor :: rest => return (⟨some anchor, none⟩, { stream with tokens := rest })
  | .tag handle suffix :: rest =>
    return (⟨none, some (← fullTag handles handle suffix)⟩, { stream with tokens := rest })
  | _ => return ({}, stream)

/-- The tag of a node, where the tag `!` leaves it to the form of the node. -/
def Properties.tagOr (properties : Properties) (default : Text) : Text :=
  match properties.tag with
  | none => default
  | some tag => if tag = ['!'] then default else tag

/-- The node of a scalar. -/
def scalarNode (properties : Properties) (content : Text) (plain : Bool) : Node :=
  let tag :=
    match properties.tag with
    | none => if plain then plainTag content else coreTag "str"
    | some tag => if tag = ['!'] then plainTag content else tag
  ⟨tag, .scalar content⟩

/-- Where a node is expected. -/
inductive Place where
  /-- Inside brackets or braces. -/
  | flow
  /-- In a block. -/
  | block
  /-- In a map written as a block, where the items of a list need no indentation. -/
  | entry
  deriving DecidableEq

mutual

/-- Read a node.  The fuel bounds the depth and the number of its parts. -/
def node (handles : List (Text × Text)) :
    (fuel : Nat) → Place → Stream → Except Failure (NodeId × Stream)
  | 0, _, stream => stream.unexpected
  | fuel + 1, place, stream =>
    match stream.tokens with
    | .alias name :: rest =>
      match stream.anchors.lookup name with
      | some id => .ok (id, { stream with tokens := rest })
      | none => malformed
    | _ => do
      let (properties, stream) ← properties handles stream
      let emptyList : Node := ⟨properties.tagOr (coreTag "seq"), .list []⟩
      let emptyMap : Node := ⟨properties.tagOr (coreTag "map"), .map []⟩
      match stream.tokens, place with
      | .dash :: _, .entry =>
        let (id, stream) ← stream.add properties.anchor emptyList
        let (items, stream) ← entryItems handles fuel stream
        return stream.complete id (.list items)
      | .scalar content plain :: _, _ =>
        stream.next.add properties.anchor (scalarNode properties content plain)
      | .openList :: _, _ =>
        let (id, stream) ← stream.next.add properties.anchor emptyList
        let (items, stream) ← flowItems handles fuel true stream
        return stream.complete id (.list items)
      | .openMap :: _, _ =>
        let (id, stream) ← stream.next.add properties.anchor emptyMap
        let (entries, stream) ← flowEntries handles fuel true stream
        return stream.complete id (.map entries)
      | tokens, place =>
        if tokens.head? = some .blockList && place != .flow then
          let (id, stream) ← stream.next.add properties.anchor emptyList
          let (items, stream) ← blockItems handles fuel stream
          return stream.complete id (.list items)
        else if tokens.head? = some .blockMap && place != .flow then
          let (id, stream) ← stream.next.add properties.anchor emptyMap
          let (entries, stream) ← blockEntries handles fuel stream
          return stream.complete id (.map entries)
        else if properties.anchor.isSome || properties.tag.isSome then
          stream.add properties.anchor (scalarNode properties [] true)
        else
          stream.unexpected

/-- Read a node unless one of some tokens comes next. -/
def nodeUnless (handles : List (Text × Text)) :
    (fuel : Nat) → List Token → Place → Stream → Except Failure (NodeId × Stream)
  | 0, _, _, stream => stream.unexpected
  | fuel + 1, ends, place, stream =>
    if stream.isAt ends then .ok stream.addAbsent else node handles fuel place stream

/-- Read the items of a list written as a block. -/
def blockItems (handles : List (Text × Text)) :
    (fuel : Nat) → Stream → Except Failure (List NodeId × Stream)
  | 0, stream => stream.unexpected
  | fuel + 1, stream =>
    match stream.tokens with
    | .dash :: _ => do
      let (item, stream) ← nodeUnless handles fuel [.dash, .blockEnd] .block stream.next
      let (items, stream) ← blockItems handles fuel stream
      return (item :: items, stream)
    | .blockEnd :: _ => .ok ([], stream.next)
    | _ => stream.unexpected

/-- Read the items of a list without indentation of its own. -/
def entryItems (handles : List (Text × Text)) :
    (fuel : Nat) → Stream → Except Failure (List NodeId × Stream)
  | 0, stream => stream.unexpected
  | fuel + 1, stream =>
    match stream.tokens with
    | .dash :: _ => do
      let (item, stream) ←
        nodeUnless handles fuel [.dash, .key, .value, .blockEnd] .block stream.next
      let (items, stream) ← entryItems handles fuel stream
      return (item :: items, stream)
    | _ => .ok ([], stream)

/-- Read the entries of a map written as a block. -/
def blockEntries (handles : List (Text × Text)) :
    (fuel : Nat) → Stream → Except Failure (List Entry × Stream)
  | 0, stream => stream.unexpected
  | fuel + 1, stream =>
    let ends := [Token.key, .value, .blockEnd]
    let value (stream : Stream) : Except Failure (NodeId × Stream) :=
      match stream.tokens with
      | .value :: _ => nodeUnless handles fuel ends .entry stream.next
      | _ => .ok stream.addAbsent
    match stream.tokens with
    | .key :: _ => do
      let (name, stream) ← nodeUnless handles fuel ends .entry stream.next
      let (found, stream) ← value stream
      let (entries, stream) ← blockEntries handles fuel stream
      return ((name, found) :: entries, stream)
    | .blockEnd :: _ => .ok ([], stream.next)
    | _ => stream.unexpected

/-- Read the value of an entry inside brackets or braces. -/
def flowValue (handles : List (Text × Text)) :
    (fuel : Nat) → Token → Stream → Except Failure (NodeId × Stream)
  | 0, _, stream => stream.unexpected
  | fuel + 1, close, stream =>
    match stream.tokens with
    | .value :: _ => nodeUnless handles fuel [.comma, close] .flow stream.next
    | _ => .ok stream.addAbsent

/-- Read the items between brackets; an entry among them is a map of its own. -/
def flowItems (handles : List (Text × Text)) :
    (fuel : Nat) → (first : Bool) → Stream → Except Failure (List NodeId × Stream)
  | 0, _, stream => stream.unexpected
  | fuel + 1, first, stream =>
    if stream.isAt [.closeList] then
      .ok ([], stream.next)
    else if first || stream.isAt [.comma] then do
      let stream := if first then stream else stream.next
      match stream.tokens with
      | .key :: _ =>
        let (id, stream) ← stream.next.add none ⟨coreTag "map", .map []⟩
        let (name, stream) ← nodeUnless handles fuel [.value, .comma, .closeList] .flow stream
        let (found, stream) ← flowValue handles fuel .closeList stream
        let (id, stream) := stream.complete id (.map [(name, found)])
        let (items, stream) ← flowItems handles fuel false stream
        return (id :: items, stream)
      | .closeList :: _ => return ([], stream.next)
      | _ =>
        let (item, stream) ← node handles fuel .flow stream
        let (items, stream) ← flowItems handles fuel false stream
        return (item :: items, stream)
    else
      stream.unexpected

/-- Read the entries between braces; a node that is not marked as a key has no value. -/
def flowEntries (handles : List (Text × Text)) :
    (fuel : Nat) → (first : Bool) → Stream → Except Failure (List Entry × Stream)
  | 0, _, stream => stream.unexpected
  | fuel + 1, first, stream =>
    if stream.isAt [.closeMap] then
      .ok ([], stream.next)
    else if first || stream.isAt [.comma] then do
      let stream := if first then stream else stream.next
      match stream.tokens with
      | .key :: _ =>
        let (name, stream) ←
          nodeUnless handles fuel [.value, .comma, .closeMap] .flow stream.next
        let (found, stream) ← flowValue handles fuel .closeMap stream
        let (entries, stream) ← flowEntries handles fuel false stream
        return ((name, found) :: entries, stream)
      | .closeMap :: _ => return ([], stream.next)
      | _ =>
        let (name, stream) ← node handles fuel .flow stream
        let (found, stream) := stream.addAbsent
        let (entries, stream) ← flowEntries handles fuel false stream
        return ((name, found) :: entries, stream)
    else
      stream.unexpected

end

end HtmlJsx.Yaml
