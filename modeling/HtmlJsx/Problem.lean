import HtmlJsx.Backend
import HtmlJsx.Data.Value
import HtmlJsx.Fault
import HtmlJsx.Files.FileError
import HtmlJsx.Markup.Token
import HtmlJsx.Number.Spelling

/-!
# Problems and reports

Everything that can go wrong is a `Problem`, named by its cause.  Problems
of the user's input are reported: a report has a message, says what it is
about, and may name the failure it stems from.  The remaining problems are
faults of an operation that nobody reports.
-/

namespace HtmlJsx

/-- The formats of configuration documents. -/
inductive DocumentFormat where
  | json
  | toml
  | yaml
  deriving Repr, DecidableEq

/-- The failure that a report stems from. -/
inductive Cause where
  | syntaxError (format : DocumentFormat)
  | missingBackend
  | rejectedMarkup
  | value
  | file (error : FileError)
  deriving Repr, DecidableEq

/-- What a report is about. -/
inductive Concern where
  | general
  | validation (parameter : Option Text) (value : Value)
  | parsing (stage : Option Text)
  | dependency (component : Text) (packages : List Text)
  | configuration (path : Option Text)
  deriving Repr

/-- A reported problem. -/
structure Report where
  message : Text
  concern : Concern
  cause : Option Cause := none
  deriving Repr

/-- The message about packages that a component needs. -/
def Report.missingPackages (component : Text) (packages : List Text) : Text :=
  '\'' :: component ++ "' requires the following packages to be installed: ".toList ++
    Text.join [',', ' '] packages ++ "\nInstall them with: pip install ".toList ++
    Text.join [' '] packages

/-- What can go wrong. -/
inductive Problem where
  /-- A text is to be repeated a negative number of times. -/
  | negativeCopies (count : Int)
  /-- The indent unit is no text, empty, or not blank. -/
  | indentNotBlank (value : Value)
  /-- The indent unit is a number of spaces below one. -/
  | indentTooSmall (count : Int)
  /-- An option names no backend. -/
  | unknownBackend (value : Value)
  /-- Markup is to be read by a backend that does not exist. -/
  | unsupportedBackend (name : Text)
  /-- Options that do not exist, in alphabetical order, and the value of the first. -/
  | unknownOptions (first : Text) (others : List Text) (value : Value)
  /-- A backend is not installed. -/
  | missingBackend (backend : Backend)
  /-- A backend refuses the markup. -/
  | rejectedMarkup (backend : Backend) (detail : Text)
  /-- Coloured output is not available. -/
  | missingColours
  /-- A failure that is described by its message alone. -/
  | failure (message : Text)
  /-- There is no configuration file at a path. -/
  | noConfiguration (path : Text)
  /-- The name of a configuration file tells no format. -/
  | unknownFormat (path suffix : Text)
  /-- A configuration file cannot be read. -/
  | unreadableDocument (path : Text) (error : FileError)
  /-- A project file cannot be read. -/
  | unreadableProject (path : Text) (error : FileError)
  /-- A configuration file is not a document of its format. -/
  | badDocument (path : Text) (format : DocumentFormat) (detail : Text)
  /-- A project file is not a document. -/
  | badProject (path : Text) (detail : Text)
  /-- A configuration file holds something other than a map. -/
  | notAMap (path kind : Text)
  /-- The section of a project file is something other than a map. -/
  | sectionNotAMap (path kind : Text)
  /-- A fault that is not reported. -/
  | fault (fault : Fault)
  deriving Repr

namespace Problem

/-- The names of the options whose values can be refused. -/
def indentOption : Text := "indent".toList

/-- The option that names the backend. -/
def backendOption : Text := "parser".toList

/-- The section of a project file that holds the configuration. -/
def projectSection : Text := "html2jsx".toList

/-- The component that a backend is, in messages. -/
def component (backend : Backend) : Text :=
  "HTML parser '".toList ++ backend.name ++ ['\'']

/-- The report of a problem, or the fault that it is. -/
def report : Problem → Except Fault Report
  | .negativeCopies count => .ok
    { message := "Cannot repeat a string a negative number of times: ".toList ++
        (toString count).toList
      concern := .validation (some "times".toList) (.int count) }
  | .indentNotBlank value => .ok
    { message := "indent must be a non-empty whitespace string, got ".toList ++ value.display
      concern := .validation (some indentOption) value }
  | .indentTooSmall count => .ok
    { message := "indent must be at least 1 space, got ".toList ++ (toString count).toList
      concern := .validation (some indentOption) (.int count) }
  | .unknownBackend value => .ok
    { message := "parser must be one of ".toList ++ Backend.choices ++ ", got ".toList ++
        value.display
      concern := .validation (some backendOption) value }
  | .unsupportedBackend name => .ok
    { message := "Unsupported HTML parser '".toList ++ name ++ "'. Choose one of: ".toList ++
        Backend.choices
      concern := .validation (some backendOption) (.text name) }
  | .unknownOptions first others value => .ok
    { message := "Unknown option(s): ".toList ++ Text.join [',', ' '] (first :: others)
      concern := .validation (some first) value }
  | .missingBackend backend => .ok
    { message := Report.missingPackages (component backend) [backend.package]
      concern := .dependency (component backend) [backend.package]
      cause := some .missingBackend }
  | .rejectedMarkup backend detail => .ok
    { message := component backend ++ " rejected the markup: ".toList ++ detail
      concern := .parsing (some "parse".toList)
      cause := some .rejectedMarkup }
  | .missingColours => .ok
    { message := ("Rich output requires the optional 'rich' dependency. " ++
        "Install with: pip install html2jsx[rich]").toList
      concern := .dependency "rich-output".toList ["rich".toList] }
  | .failure message => .ok { message, concern := .general }
  | .noConfiguration path => .ok
    { message := "Configuration file does not exist: ".toList ++ path
      concern := .configuration (some path) }
  | .unknownFormat path suffix => .ok
    { message := "Unsupported config file format: ".toList ++ suffix ++
        ". Use .json, .toml, or .yaml".toList
      concern := .configuration (some path) }
  | .unreadableDocument path error => .ok
    { message := "Error reading config file ".toList ++ path ++ [':', ' '] ++ error.message path
      concern := .configuration (some path)
      cause := some (.file error) }
  | .unreadableProject path error => .ok
    { message := "Error reading ".toList ++ path ++ [':', ' '] ++ error.message path
      concern := .configuration (some path)
      cause := some (.file error) }
  | .badDocument path format detail => .ok
    { message := "Invalid config file ".toList ++ path ++ [':', ' '] ++ detail
      concern := .configuration (some path)
      cause := some (.syntaxError format) }
  | .badProject path detail => .ok
    { message := "Invalid TOML in ".toList ++ path ++ [':', ' '] ++ detail
      concern := .configuration (some path)
      cause := some (.syntaxError .toml) }
  | .notAMap path kind => .ok
    { message := "Config file ".toList ++ path ++
        " must contain a mapping at root level, got ".toList ++ kind
      concern := .configuration (some path) }
  | .sectionNotAMap path kind => .ok
    { message := "[tool.".toList ++ projectSection ++ "] section in ".toList ++ path ++
        " must be a table, got ".toList ++ kind
      concern := .configuration (some path) }
  | .fault unreported => .error unreported

/-- The problem of a number that cannot be read. -/
def ofNumber : NumberFault → Problem
  | .tooManyDigits => .fault .value
  | .tooLarge => .fault .range

end Problem

end HtmlJsx
