import HtmlJsx.Data.Json
import HtmlJsx.Data.Toml.Document
import HtmlJsx.Data.Yaml.Document
import HtmlJsx.Files.Volume
import HtmlJsx.Log.Record
import HtmlJsx.Settings.Options

/-!
# Configuration files

Options can be kept in a file of their own, in one of three formats, or in
a section of a project file.  A file is named explicitly, or the nearest one
is found from a folder outward; in each folder the dedicated files come
before the project file, which counts only if its section says something.
-/

namespace HtmlJsx

/-- The entries of a configuration. -/
abbrev Configuration := List (Value × Value)

/-- A result together with the log records made on the way. -/
structure Logged (α : Type) where
  records : List LogRecord := []
  outcome : Except Problem α

namespace Configuration

/-- The part that makes the log records of this module. -/
def source : Text := "html2jsx.cli.config".toList

/-- The names of dedicated configuration files, the first found counts. -/
def fileNames : List Text :=
  [".html2jsx.toml".toList, ".html2jsx.yaml".toList, ".html2jsx.yml".toList,
    ".html2jsx.json".toList]

/-- The name of a project file. -/
def projectName : Text := "pyproject.toml".toList

/-- The environment variable that can name a configuration file. -/
def variableName : String := "HTML2JSX_CONFIG"

/-- The words that stand for the details of a malformed document. -/
def detail : Text := "<detail>".toList

/-- The text of octets, or a fault. -/
def decoded (octets : List UInt8) : Except Problem Text :=
  (Utf8.decode octets).mapError fun _ => .fault .encoding

/-- The text of octets with unified line breaks, or a fault. -/
def decodedLines (octets : List UInt8) : Except Problem Text :=
  (decoded octets).map Text.unifyBreaks

/-- Read a TOML document; a malformed one is the given problem. -/
def readToml (problem : Problem) (octets : List UInt8) : Except Problem Value := do
  match Toml.document (← decoded octets) with
  | .ok value => return value
  | .error .malformed => throw problem
  | .error .tooManyDigits => throw (.fault .value)

/-- Read a YAML document. -/
def readYaml (path : Text) (octets : List UInt8) : Except Problem Value := do
  match Yaml.document (← decodedLines octets) with
  | .ok value => return value
  | .error .malformed => throw (.badDocument path .yaml detail)
  | .error (.fault fault) => throw (.fault fault)

/-- Read a JSON document. -/
def readJson (path : Text) (octets : List UInt8) : Except Problem Value := do
  let text ← decodedLines octets
  match Json.document text with
  | .ok value => return value
  | .error (.syntaxError complaint remaining) =>
    throw (.badDocument path .json (Json.describe text complaint remaining))
  | .error .tooManyDigits => throw (.fault .value)

/-- The format that the suffix of a file name tells. -/
def format? (suffix : Text) : Option DocumentFormat :=
  [(".toml".toList, .toml), (".yaml".toList, .yaml), (".yml".toList, .yaml),
    (".json".toList, .json)].lookup suffix

/-- The entries of the section of a project document. -/
def sectionOf (path : Text) : Value → Except Problem Configuration
  | .map entries =>
    match (Value.field? entries "tool").getD (.map []) with
    | .map tools =>
      match (Value.find? tools (.text Problem.projectSection)).getD (.map []) with
      | .map found => .ok found
      | other => .error (.sectionNotAMap path other.kind)
    | _ => .error (.fault .member)
  | _ => .error (.fault .member)

/-- Read the section of a project file. -/
def readProject (path : Text) (file : File) : Except Problem Configuration := do
  let octets ← file.read.mapError (.unreadableProject path)
  sectionOf path (← readToml (.badProject path detail) octets)

/-- The entries of a document: nothing counts as an empty map. -/
def entriesOf (path : Text) : Value → Except Problem Configuration
  | .null => .ok []
  | .map entries => .ok entries
  | other => .error (.notAMap path other.kind)

/-- Read a document of a format. -/
def readDocument (path : Text) (octets : List UInt8) : DocumentFormat → Except Problem Value
  | .toml => readToml (.badDocument path .toml detail) octets
  | .yaml => readYaml path octets
  | .json => readJson path octets

/-- Read the configuration file at a path; one whose name tells no format is not opened. -/
def readFile (path : Path) (file : File) : Except Problem Configuration := do
  let shown := path.display
  let suffix := Text.lower path.suffix
  if Text.lower path.name = projectName then
    readProject shown file
  else
    match format? suffix with
    | some format =>
      let octets ← file.read.mapError (.unreadableDocument shown)
      entriesOf shown (← readDocument shown octets format)
    | none => throw (.unknownFormat shown suffix)

/-- Load the configuration file at a path. -/
def load (volume : Volume) (folder : Location) (path : Text) : Except Problem Configuration :=
  let target := Path.ofText path
  match volume.fileAt? folder target with
  | some file => readFile target file
  | none => .error (.noConfiguration target.display)

/-- The dedicated configuration file of a folder. -/
def dedicated? (volume : Volume) (folder : Location) : Option Location :=
  (fileNames.map fun name => folder ++ [name]).find? fun location =>
    (volume.file? location).isSome

/-- The record of a project file that is passed over. -/
def skippedRecord (location : Location) (message : Text) : LogRecord :=
  ⟨source, LogLevel.debug,
    "Skipping unreadable ".toList ++ location.display ++ [':', ' '] ++ message⟩

/-- Whether the project file of a folder configures anything; one that cannot be read does not. -/
def projectCounts (volume : Volume) (folder : Location) : Logged Bool :=
  let location := folder ++ [projectName]
  match volume.file? location with
  | none => { outcome := .ok false }
  | some file =>
    match readProject location.display file with
    | .ok entries => { outcome := .ok !entries.isEmpty }
    | .error problem =>
      match problem.report with
      | .ok report =>
        { records := [skippedRecord location report.message], outcome := .ok false }
      | .error fault => { outcome := .error (.fault fault) }

/-- The configuration file of the first of some folders that has one. -/
def search (volume : Volume) : List Location → Logged (Option Location)
  | [] => { outcome := .ok none }
  | folder :: rest =>
    match dedicated? volume folder with
    | some location => { outcome := .ok (some location) }
    | none =>
      let project := projectCounts volume folder
      match project.outcome with
      | .error problem => { records := project.records, outcome := .error problem }
      | .ok true => { records := project.records, outcome := .ok (some (folder ++ [projectName])) }
      | .ok false =>
        let outer := search volume rest
        { outer with records := project.records ++ outer.records }

/-- The nearest configuration file from a folder outward. -/
def find (volume : Volume) (folder : Location) : Logged (Option Location) :=
  search volume folder.outward

/-- The record of the file that is used. -/
def usedRecord (location : Location) : LogRecord :=
  ⟨source, LogLevel.debug, "Using configuration file ".toList ++ location.display⟩

/-- A path that is given and not empty. -/
def given? (path : Option Text) : Option Text :=
  path.filter fun path => !path.isEmpty

/--
The configuration that counts: the file that is named explicitly, the one
that the environment names, or the nearest one from the folder `start`.
-/
def choose (volume : Volume) (folder : Location) (explicit environment : Option Text)
    (start : Location) : Logged Configuration :=
  match given? explicit, given? environment with
  | some path, _ => { outcome := load volume folder path }
  | none, some path => { outcome := load volume folder path }
  | none, none =>
    let found := find volume start
    match found.outcome with
    | .error problem => { records := found.records, outcome := .error problem }
    | .ok none => { records := found.records, outcome := .ok [] }
    | .ok (some location) =>
      { records := found.records ++ [usedRecord location]
        outcome := load volume folder location.display }

end Configuration

end HtmlJsx
