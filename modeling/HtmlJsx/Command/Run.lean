import HtmlJsx.Command.Arguments
import HtmlJsx.Command.ExitCode
import HtmlJsx.Command.Usage
import HtmlJsx.Jsx.Conversion
import HtmlJsx.Log.Journal

/-!
# Running the command

A run is a function of the command line and of the surroundings: files,
streams and the environment.  It gives what is printed, the files as they
are afterwards, and an exit code.  Its stages are the command line, the
journal, the settings, the input, the conversion and the delivery; the
first problem ends it.
-/

namespace HtmlJsx

/-- What a run finds around it. -/
structure Surroundings where
  volume : Volume
  /-- The working folder. -/
  folder : Location
  /-- The configuration file that the environment names. -/
  configVariable : Option Text := none
  /-- The standard input. -/
  input : List UInt8 := []
  /-- Whether the standard output is a terminal. -/
  isTerminal : Bool := false
  /-- Whether coloured output is available. -/
  hasColours : Bool := true
  /-- The time, as it is written in log records. -/
  stamp : Text := []
  /-- How markup is read. -/
  read : Backend → Text → Except Problem Node := Fragment.read

/-- What a run leaves behind. -/
structure Outcome where
  /-- The exit code, or the fault that broke the run off. -/
  ending : Except Fault ExitCode
  /-- The standard output. -/
  output : Text := []
  /-- The error stream. -/
  errors : Text := []
  volume : Volume

namespace Surroundings

/-- The options of a run: those of the flags over those of the configuration that counts. -/
def options (surroundings : Surroundings) (arguments : Arguments) : Logged Options :=
  let configuration : Logged Configuration :=
    if arguments.noConfig then
      { outcome := .ok [] }
    else
      Configuration.choose surroundings.volume surroundings.folder arguments.config
        surroundings.configVariable surroundings.folder
  { records := configuration.records
    outcome := configuration.outcome >>= arguments.options.mergeInto }

/--
Whether output is coloured: this is asked for, the output goes to no file,
and colours are forced or the output is a terminal.
-/
def usesColours (hasColours isTerminal : Bool) (arguments : Arguments) : Except Problem Bool :=
  if !arguments.rich || arguments.out.isFile then .ok false
  else if !hasColours then .error .missingColours
  else .ok (arguments.forceRich || isTerminal)

end Surroundings

/-- A run under way. -/
structure Course where
  surroundings : Surroundings
  arguments : Arguments
  journal : Journal
  ledger : Ledger

namespace Course

/-- The part that makes the log records of this module. -/
def source : Text := "html2jsx.cli".toList

/-- The part that reports on reading. -/
def readingSource : Text := "html2jsx.dom".toList

/-- The part that reports on conversion. -/
def conversionSource : Text := "html2jsx.converter".toList

/-- Write log records. -/
def log (course : Course) (records : List LogRecord) : Course :=
  { course with
    ledger := course.journal.writeAll course.surroundings.stamp course.ledger records }

/-- End a run. -/
def stop (course : Course) (ending : Except Fault ExitCode) (output : Text) : Outcome :=
  { ending, output, errors := course.ledger.errors, volume := course.ledger.volume }

/-- End a run with a complaint. -/
def complain (course : Course) (code : ExitCode) (message : Text) : Outcome :=
  let errors := course.ledger.errors ++ "Error: ".toList ++ message ++ ['\n']
  { course with ledger := { course.ledger with errors } }.stop (.ok code) []

/-- End a run with a problem. -/
def refuse (course : Course) (code : Concern → ExitCode) (problem : Problem) : Outcome :=
  match problem.report with
  | .ok report => course.complain (code report.concern) report.message
  | .error fault => course.stop (.error fault) []

/-- The name of the standard input among the input files. -/
def standardInput : Text := ['-']

/-- The octets of the input, or the reason why there are none. -/
def inputOctets (course : Course) : Except Text (List UInt8) :=
  if course.arguments.input = standardInput then
    .ok course.surroundings.input
  else
    let path := Path.ofText course.arguments.input
    (course.ledger.volume.read course.surroundings.folder path).mapError fun error =>
      error.message path.display

/-- The text of the input, or why it cannot be read. -/
def inputText (course : Course) : Except Text Text := do
  let octets ← course.inputOctets
  (Utf8.decodeLines octets).mapError Utf8.Failure.message

/-- The record of a fragment that has been read. -/
def readRecord (backend : Backend) (container : Node) : LogRecord :=
  ⟨readingSource, LogLevel.debug,
    "Parsed fragment with ".toList ++ backend.name ++ " into ".toList ++
      (toString container.children.length).toList ++ " top-level nodes".toList⟩

/-- The records of warnings. -/
def warningRecords (canvas : Canvas) : List LogRecord :=
  canvas.warnings.map fun message => ⟨conversionSource, LogLevel.warning, message⟩

/-- Convert a fragment. -/
def convert (surroundings : Surroundings) (options : Options) (html : Text) : Logged Text :=
  match surroundings.read options.backend (Conversion.markup html) with
  | .error problem => { outcome := .error problem }
  | .ok container =>
    let record := readRecord options.backend container
    match Conversion.render options.indent container with
    | .ok canvas => { records := record :: warningRecords canvas, outcome := .ok canvas.output }
    | .error interruption =>
      { records := record :: warningRecords interruption.canvas
        outcome := .error interruption.problem }

/-- The distance of tab stops in coloured output. -/
def tabStops : Nat := 4

/-- Replace tabs by spaces up to the next tab stop; `column` is the column where the text begins. -/
def expandTabs : (column : Nat) → Text → Text
  | _, [] => []
  | column, c :: rest =>
    if c = '\t' then
      let width := tabStops - column % tabStops
      List.replicate width ' ' ++ expandTabs (column + width) rest
    else
      c :: expandTabs (if c = '\n' ∨ c = '\r' then 0 else column + 1) rest

/-- Whether a character is dropped from coloured output. -/
def isDropped (c : Char) : Bool :=
  ['\x07', '\x08', '\x0b', '\x0c', '\r'].contains c

/-- The coloured output for a stream that shows no colours. -/
def coloured (jsx : Text) : Text :=
  (expandTabs 0 jsx).filter (fun c => !isDropped c) ++ ['\n']

/-- Write the result to a file. -/
def writeFile (course : Course) (out : Path) (jsx : Text) : Except (FileError × Path) Volume := do
  let folder := course.surroundings.folder
  let volume ← course.ledger.volume.ensureFolder folder out.parent
  (volume.write folder out (Utf8.encode jsx)).mapError fun error => (error, out)

/-- The record of a finished conversion. -/
def finishedRecord (input : Text) : LogRecord :=
  ⟨source, LogLevel.info, "Converted ".toList ++
    if input = standardInput then "standard input".toList else input⟩

/-- End a run whose result has been delivered. -/
def succeed (course : Course) (output : Text) : Outcome :=
  (course.log [finishedRecord course.arguments.input]).stop (.ok .success) output

/-- Deliver the result. -/
def deliver (course : Course) (inColours : Bool) (jsx : Text) : Outcome :=
  if inColours then
    course.stop (.ok .success) (coloured jsx)
  else
    match course.arguments.out with
    | .standard => course.succeed jsx
    | .unnamed => course.stop (.error .member) []
    | .file out =>
      if Path.isImpossible out.display then
        course.stop (.error .value) []
      else
        match course.writeFile out jsx with
        | .ok volume => { course with ledger := { course.ledger with volume } }.succeed []
        | .error (error, path) =>
          course.complain .file
            ("cannot write ".toList ++ out.display ++ [':', ' '] ++ error.message path.display)

/-- The record of a conversion that failed for no reason of its own. -/
def failedRecord : LogRecord :=
  ⟨source, LogLevel.debug, "Conversion failed".toList⟩

/-- Convert the input and deliver the result. -/
def work (course : Course) (options : Options) (inColours : Bool) (html : Text) : Outcome :=
  let converted := convert course.surroundings options html
  let course := course.log converted.records
  match converted.outcome with
  | .ok jsx => course.deliver inColours jsx
  | .error problem =>
    match problem.report with
    | .ok report =>
      let code := ExitCode.ofConversion report.concern
      let course := if code = .failure then course.log [failedRecord] else course
      course.complain code report.message
    | .error fault => course.stop (.error fault) []

/-- Go on with the settings. -/
def settle (course : Course) (options : Options) (inColours : Bool) : Outcome :=
  if Path.isImpossible course.arguments.input then
    course.stop (.error .value) []
  else
    match course.inputText with
    | .ok html => course.work options inColours html
    | .error detail =>
      course.complain .file
        ("cannot read ".toList ++ course.arguments.input ++ [':', ' '] ++ detail)

/-- Go on with an open journal. -/
def begin (course : Course) : Outcome :=
  let surroundings := course.surroundings
  let options := surroundings.options course.arguments
  let course := course.log options.records
  let settings : Except Problem (Options × Bool) := do
    let options ← options.outcome
    let inColours ←
      Surroundings.usesColours surroundings.hasColours surroundings.isTerminal course.arguments
    return (options, inColours)
  match settings with
  | .ok (options, inColours) => course.settle options inColours
  | .error problem => course.refuse ExitCode.ofSettings problem

end Course

namespace Surroundings

/-- Run the command as a command line asks for. -/
def perform (surroundings : Surroundings) (arguments : Arguments) : Outcome :=
  let opened : Except Fault (Journal × Ledger) := do
    Journal.start surroundings.folder surroundings.stamp (← arguments.level) arguments.trace
      arguments.logFile { volume := surroundings.volume }
  match opened with
  | .ok (journal, ledger) => Course.begin { surroundings, arguments, journal, ledger }
  | .error fault => { ending := .error fault, volume := surroundings.volume }

/-- Run the command with the words of a command line. -/
def run (surroundings : Surroundings) (words : List Text) : Outcome :=
  match Arguments.parse words with
  | .error problem =>
    { ending := .ok .usage
      errors := Usage.refusal problem.message
      volume := surroundings.volume }
  | .ok .help =>
    { ending := .ok .success, output := Usage.help, volume := surroundings.volume }
  | .ok (.run arguments) => surroundings.perform arguments

end Surroundings

end HtmlJsx
