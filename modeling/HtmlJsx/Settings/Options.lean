import HtmlJsx.Problem
import HtmlJsx.Text.Blank

/-!
# Options

The options of a conversion are the indent unit, which is not empty and
consists of blanks, and the backend.  They are given as named values: an
entry with an unknown name is either refused or passed over.
-/

namespace HtmlJsx

/-- The options of a conversion. -/
structure Options where
  indent : Text := "  ".toList
  backend : Backend := .builtIn
  indent_nonempty : indent ≠ [] := by decide
  indent_blank : indent.isBlank = true := by decide
  deriving Repr, DecidableEq

instance : Inhabited Options := ⟨{}⟩

/-- Options as they are given: named values. -/
abbrev NamedValues := List (Text × Value)

namespace Options

/-- The names of the options. -/
def names : List Text := [Problem.indentOption, Problem.backendOption]

/-- Options from the values given for them; the indent unit is checked first. -/
def check (indent backend : Value) : Except Problem Options :=
  match indent with
  | .text unit =>
    if valid : unit ≠ [] ∧ Text.isBlank unit = true then
      match backend with
      | .text name =>
        match Backend.ofName? name with
        | some backend => .ok ⟨unit, backend, valid.1, valid.2⟩
        | none => .error (.unknownBackend (.text name))
      | value => .error (.unknownBackend value)
    else
      .error (.indentNotBlank (.text unit))
  | value => .error (.indentNotBlank value)

/-- Options with the values of known names replaced. -/
def assign (options : Options) (values : NamedValues) : Except Problem Options :=
  check ((values.lookup Problem.indentOption).getD (.text options.indent))
    ((values.lookup Problem.backendOption).getD (.text options.backend.name))

/-- Options from named values; an unknown name does not fit. -/
def ofValues (values : NamedValues) : Except Problem Options :=
  if values.all fun entry => names.contains entry.1 then
    assign {} values
  else
    .error (.fault .kind)

/-- Options from a configuration, whose other entries are passed over. -/
def ofConfiguration (values : NamedValues) : Except Problem Options :=
  assign {} values

/-- Insert a name into an alphabetical list. -/
def insertName (name : Text) : List Text → List Text
  | [] => [name]
  | other :: rest =>
    if other.map Char.toNat < name.map Char.toNat then other :: insertName name rest
    else name :: other :: rest

/-- The names of values that are no options, in alphabetical order. -/
def unknownNames (values : NamedValues) : List Text :=
  ((values.map (·.1)).filter fun name => !names.contains name).foldr insertName []

/-- Options with some values replaced; unknown names are refused. -/
def update (options : Options) (values : NamedValues) : Except Problem Options :=
  match unknownNames values with
  | [] => options.assign values
  | first :: others => .error (.unknownOptions first others ((values.lookup first).getD .null))

end Options

end HtmlJsx
