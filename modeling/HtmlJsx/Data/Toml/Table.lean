import HtmlJsx.Data.Value

/-!
# TOML tables under construction

A document names tables by paths.  A table may come into being because a
header passes through it, because a header opens it, or because a dotted key
passes through it; which of these it was decides how it may be extended:

* a header opens a table that is new or that headers only passed through;
* a dotted key passes through tables that are new, that headers only passed
  through, or that dotted keys of the same section made;
* nothing extends a value, which includes inline tables and lists.
-/

namespace HtmlJsx.Toml

/-- How a table came into being. -/
inductive Origin where
  /-- A header passed through it. -/
  | passed
  /-- A header opened it. -/
  | opened
  /-- Dotted keys of a section made it. -/
  | dotted (made : Nat)
  deriving Repr, DecidableEq

/-- What a name in a table stands for. -/
inductive Entry where
  | value (content : Value)
  | table (origin : Origin) (entries : List (Text × Entry))
  /-- A list of tables: the finished ones and the entries of the latest. -/
  | tables (finished : List Value) (latest : List (Text × Entry))

/-- The entries of a table in the order of their creation. -/
abbrev Entries := List (Text × Entry)

namespace Entry

mutual

/-- The value that an entry stands for. -/
def toValue : Entry → Value
  | .value content => content
  | .table _ entries => .map (toFields entries)
  | .tables finished latest => .list (finished ++ [.map (toFields latest)])

/-- The fields that entries stand for. -/
def toFields : List (Text × Entry) → List (Value × Value)
  | [] => []
  | (name, entry) :: rest => (.text name, toValue entry) :: toFields rest

end

end Entry

namespace Entries

/-- Set a name: in its place if it is present, at the end otherwise. -/
def set : Entries → Text → Entry → Entries
  | [], name, entry => [(name, entry)]
  | (other, old) :: rest, name, entry =>
    if other = name then (other, entry) :: rest else (other, old) :: set rest name entry

/-- Change the entries of the table at a path that headers may pass through. -/
def within (change : Entries → Option Entries) : List Text → Entries → Option Entries
  | [], entries => change entries
  | name :: path, entries =>
    match entries.lookup name with
    | none => (within change path []).map fun inner => entries.set name (.table .passed inner)
    | some (.table origin inner) =>
      (within change path inner).map fun inner => entries.set name (.table origin inner)
    | some (.tables finished latest) =>
      (within change path latest).map fun latest => entries.set name (.tables finished latest)
    | some (.value _) => none

/-- Open the table of a name by a header. -/
def openTable (name : Text) (entries : Entries) : Option Entries :=
  match entries.lookup name with
  | none => some (entries.set name (.table .opened []))
  | some (.table .passed inner) => some (entries.set name (.table .opened inner))
  | some _ => none

/-- Begin a new table in the list of tables of a name. -/
def appendTable (name : Text) (entries : Entries) : Option Entries :=
  match entries.lookup name with
  | none => some (entries.set name (.tables [] []))
  | some (.tables finished latest) =>
    some (entries.set name (.tables (finished ++ [.map (Entry.toFields latest)]) []))
  | some _ => none

/-- Whether a dotted key of a section may pass through a table. -/
def admits (current : Nat) : Origin → Bool
  | .passed => true
  | .opened => false
  | .dotted made => made == current

/-- Give a value to a dotted key of a section. -/
def assign (current : Nat) (value : Value) : List Text → Entries → Option Entries
  | [], _ => none
  | [name], entries =>
    match entries.lookup name with
    | none => some (entries.set name (.value value))
    | some _ => none
  | name :: path, entries =>
    match entries.lookup name with
    | none =>
      (assign current value path []).map fun inner =>
        entries.set name (.table (.dotted current) inner)
    | some (.table origin inner) =>
      if admits current origin then
        (assign current value path inner).map fun inner =>
          entries.set name (.table (.dotted current) inner)
      else
        none
    | some _ => none

end Entries

end HtmlJsx.Toml
