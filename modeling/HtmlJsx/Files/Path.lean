import HtmlJsx.Text.Basic

/-!
# Paths

A path is a number of leading slashes and the names between the others.
Empty names and single points say nothing and are dropped, double points
are kept.  A location is the list of names from the root of a volume.
-/

namespace HtmlJsx

/-- The names from the root of a volume to a file or folder. -/
abbrev Location := List Text

/-- The path of a location. -/
def Location.display (location : Location) : Text :=
  '/' :: Text.join ['/'] location

/-- A location and the folders around it, up to the root. -/
def Location.outward (location : Location) : List Location :=
  shrink location.reverse
where
  /-- The locations whose names, in reverse, end a list. -/
  shrink : List Text → List Location
    | [] => [[]]
    | name :: rest => (name :: rest).reverse :: shrink rest

/-- A path. -/
structure Path where
  /-- The leading slashes: none, one, or exactly two. -/
  slashes : Nat
  names : List Text
  deriving Repr, DecidableEq

namespace Path

/-- The leading slashes that count: two are kept, more are as good as one. -/
def leadingSlashes (text : Text) : Nat :=
  let count := (text.takeWhile (· == '/')).length
  if count ≤ 2 then count else 1

/-- Whether no file can have a path. -/
def isImpossible (text : Text) : Bool :=
  text.contains '\x00'

/-- The path that a text denotes. -/
def ofText (text : Text) : Path :=
  let counts (name : Text) : Bool := !(name.isEmpty || name == ['.'])
  ⟨leadingSlashes text, (Text.pieces '/' text).filter counts⟩

/-- A path as text. -/
def display (path : Path) : Text :=
  if path.slashes = 0 ∧ path.names.isEmpty then ['.']
  else List.replicate path.slashes '/' ++ Text.join ['/'] path.names

/-- The last name of a path. -/
def name (path : Path) : Text :=
  path.names.getLast?.getD []

/-- The path without its last name. -/
def parent (path : Path) : Path :=
  { path with names := path.names.dropLast }

/-- The end of the last name from its last point, which neither begins nor ends the name. -/
def suffix (path : Path) : Text :=
  let ending := path.name.reverse.takeWhile (· != '.')
  if ending.isEmpty || path.name.length ≤ ending.length + 1 then [] else '.' :: ending.reverse

/-- The location where a path begins, in a working folder. -/
def start (path : Path) (folder : Location) : Location :=
  if path.slashes = 0 then folder else []

/-- The location of a path when double points are resolved by its text alone. -/
def resolve (path : Path) (folder : Location) : Location :=
  path.names.foldl (fun here name => if name == ['.', '.'] then here.dropLast else here ++ [name])
    (path.start folder)

/-- The path from the root of the volume that leads where a path leads. -/
def absolute (path : Path) (folder : Location) : Path :=
  ⟨max path.slashes 1, path.resolve folder⟩

end Path

end HtmlJsx
