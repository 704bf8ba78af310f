import HtmlJsx.Data.Moment
import HtmlJsx.Data.Octets
import HtmlJsx.Number.Shortest
import HtmlJsx.Text.Quoted

/-!
# Configuration values

What a configuration document can say: nothing, truth values, numbers,
texts, octets, moments, pairs, lists, sets, and maps.  A map keeps the order
of its entries; its keys are values too.

A document can put a collection into itself.  The value of such a collection
is unfolded until it comes upon itself, where it says so and goes no further.
-/

namespace HtmlJsx

/-- A value of a configuration document. -/
inductive Value where
  | null
  | bool (truth : Bool)
  | int (number : Int)
  | float (number : Binary64)
  | text (content : Text)
  | octets (content : List UInt8)
  | moment (point : Moment)
  | pair (first second : Value)
  | list (items : List Value)
  | set (members : List Value)
  | map (entries : List (Value × Value))
  /-- The list or map around this place, once more. -/
  | again (isMap : Bool)
  deriving Repr, Inhabited

namespace Value

/-- The name of the kind of a value. -/
def kind : Value → Text
  | .null => "NoneType".toList
  | .bool _ => "bool".toList
  | .int _ => "int".toList
  | .float _ => "float".toList
  | .text _ => "str".toList
  | .octets _ => "bytes".toList
  | .moment point => point.kind
  | .pair _ _ => "tuple".toList
  | .list _ => "list".toList
  | .set _ => "set".toList
  | .map _ => "dict".toList
  | .again isMap => if isMap then "dict".toList else "list".toList

mutual

/-- A value as it is shown in a message. -/
def display : Value → Text
  | .null => "None".toList
  | .bool truth => if truth then "True".toList else "False".toList
  | .int number => (toString number).toList
  | .float number => number.display
  | .text content => Text.quoted content
  | .octets content => Octets.display content
  | .moment point => point.display
  | .pair first second => '(' :: display first ++ [',', ' '] ++ display second ++ [')']
  | .list items => '[' :: displayItems items ++ [']']
  | .set [] => "set()".toList
  | .set (first :: rest) => '{' :: displayItems (first :: rest) ++ ['}']
  | .map entries => '{' :: displayEntries entries ++ ['}']
  | .again isMap => if isMap then "\x7b...\x7d".toList else "[...]".toList

/-- Items as they are shown, with commas between them. -/
def displayItems : List Value → Text
  | [] => []
  | [item] => display item
  | item :: next :: rest => display item ++ [',', ' '] ++ displayItems (next :: rest)

/-- Entries as they are shown, with commas between them. -/
def displayEntries : List (Value × Value) → Text
  | [] => []
  | [(key, value)] => display key ++ [':', ' '] ++ display value
  | (key, value) :: next :: rest =>
    display key ++ [':', ' '] ++ display value ++ [',', ' '] ++ displayEntries (next :: rest)

end

/-- A text as it stands, any other value as it is shown. -/
def plain : Value → Text
  | .text content => content
  | value => value.display

/-- The number that a truth value or a number counts as in comparisons. -/
def number? : Value → Option Value
  | .bool truth => some (.int (if truth then 1 else 0))
  | .int number => some (.int number)
  | .float number => some (.float number)
  | _ => none

/-- The integer that a binary number is, if it is one. -/
def integerOf? : Binary64 → Option Int
  | .finite negative mantissa exponent =>
    let size := mantissa * Nat.pow 2 exponent.toNat
    let unit := Nat.pow 2 (-exponent).toNat
    if size % unit = 0 then
      some (if negative then -((size / unit : Nat) : Int) else ((size / unit : Nat) : Int))
    else
      none
  | _ => none

/--
Whether two values are the same map key.  Numbers and truth values compare by
their size, where a nan is the same as a nan; moments compare by the time that
they denote.
-/
def sameKey : Value → Value → Bool
  | .null, .null => true
  | .text left, .text right => left == right
  | .octets left, .octets right => left == right
  | .moment left, .moment right => left.same right
  | .float .nan, .float .nan => true
  | left, right =>
    match left.number?, right.number? with
    | some (.int left), some (.int right) => left == right
    | some (.float left), some (.float right) => left.same right
    | some (.int left), some (.float right) => integerOf? right == some left
    | some (.float left), some (.int right) => integerOf? left == some right
    | _, _ => false

/-- Whether a value can be a map key. -/
def isKey : Value → Bool
  | .pair first second => first.isKey && second.isKey
  | .list _ => false
  | .set _ => false
  | .map _ => false
  | .again _ => false
  | _ => true

/-- Set an entry: in its place if the key is present, at the end otherwise. -/
def setEntry {α : Type} : List (Value × α) → Value → α → List (Value × α)
  | [], key, value => [(key, value)]
  | (name, old) :: rest, key, value =>
    if sameKey name key then (name, value) :: rest else (name, old) :: setEntry rest key value

/-- The value of a key. -/
def find? (entries : List (Value × Value)) (key : Value) : Option Value :=
  (entries.find? fun entry => sameKey entry.1 key).map (·.2)

/-- The value of a textual key. -/
def field? (entries : List (Value × Value)) (name : String) : Option Value :=
  find? entries (.text name.toList)

end Value

end HtmlJsx
