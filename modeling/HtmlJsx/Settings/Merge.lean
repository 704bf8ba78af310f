import HtmlJsx.Settings.Configuration
import HtmlJsx.Text.Size

/-!
# Flags over configuration

The options of a run come from a configuration and from the flags of the
command line, which win.  In both, the indent unit may be given as a number
of spaces.  A number in the configuration is checked even if a flag replaces
it.
-/

namespace HtmlJsx

/-- The options that flags of a command line give. -/
structure OptionFlags where
  tabs : Bool := false
  /-- A number of spaces; an empty list if the flag is given without one. -/
  indent : Option Value := none
  backend : Option Backend := none
  deriving Repr

namespace OptionFlags

/-- A number of spaces as an indent unit. -/
def spaces (count : Int) : Except Problem Value :=
  if count < 1 then
    .error (.indentTooSmall count)
  else
    match Text.copiesFault? count [' '] with
    | some fault => .error (.fault fault)
    | none => .ok (.text (List.replicate count.toNat ' '))

/-- An indent unit as it is given: a number counts spaces, anything else stands for itself. -/
def indentUnit : Value → Except Problem Value
  | .int count => spaces count
  | value => .ok value

/-- The indent unit of a configuration. -/
def configuredIndent (configuration : Configuration) : Except Problem (Option Value) :=
  match Value.find? configuration (.text Problem.indentOption) with
  | some value => (indentUnit value).map some
  | none => .ok none

/-- The indent unit that flags give, or else the configured one. -/
def chosenIndent (flags : OptionFlags) (configured : Option Value) :
    Except Problem (Option Value) :=
  if flags.tabs then
    .ok (some (.text ['\t']))
  else
    match flags.indent with
    | some value => (indentUnit value).map some
    | none => .ok configured

/-- The backend that a flag gives, or else the configured one. -/
def chosenBackend (flags : OptionFlags) (configuration : Configuration) : Option Value :=
  match flags.backend with
  | some backend => some (.text backend.name)
  | none => Value.find? configuration (.text Problem.backendOption)

/-- The entry of an option that is given. -/
def entry (name : Text) (value : Option Value) : NamedValues :=
  (value.map fun value => (name, value)).toList

/-- The options of flags over a configuration. -/
def mergeInto (flags : OptionFlags) (configuration : Configuration) : Except Problem Options := do
  let configured ← configuredIndent configuration
  let indent ← chosenIndent flags configured
  Options.ofConfiguration
    (entry Problem.indentOption indent ++
      entry Problem.backendOption (chosenBackend flags configuration))

end OptionFlags

end HtmlJsx
