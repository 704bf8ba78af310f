import HtmlJsx.Command.Run
import Std.Time.Zoned

/-!
# The command

The outer layer of the command: it takes a picture of the files that a run
can look at, runs, and puts what the run has changed in place.
-/

namespace HtmlJsx.Main

/-- The locations on the way along names. -/
def trail : Location → List Text → List Location
  | here, [] => [here]
  | here, name :: rest =>
    here :: trail (if name == ['.', '.'] then here.dropLast else here ++ [name]) rest

/-- The locations that are looked at for a path. -/
def trailOf (folder : Location) (path : Path) : List Location :=
  (path.start folder).outward ++ trail (path.start folder) path.names ++
    trail [] (path.resolve folder)

/-- The paths that a run is told about. -/
def paths (configVariable : Option Text) (arguments : Arguments) : List Path :=
  ([some arguments.input, arguments.config, arguments.logFile, configVariable].filterMap id).map
      Path.ofText ++ arguments.out.path?.toList

/-- The locations that a run can look at. -/
def places (folder : Location) (configVariable : Option Text) (arguments : Arguments) :
    List Location :=
  let candidates := folder.outward.flatMap fun outer =>
    outer :: (Configuration.projectName :: Configuration.fileNames).map fun name => outer ++ [name]
  (candidates ++ (paths configVariable arguments).flatMap (trailOf folder)).eraseDups

/-- The number by which the system says that something is a folder. -/
def folderCode : UInt32 := 21

/-- The file at a location that cannot be read; what is not known is not written over either. -/
def closedFile : File where
  unreadable := some .permission
  unwritable := some .permission

/-- Add what stands at a location to a volume. -/
def scan (volume : Volume) (location : Location) : IO Volume := do
  let content ← (IO.FS.readBinFile (String.ofList location.display)).toBaseIO
  match content with
  | .ok octets => return volume.setContent location octets.toList
  | .error (.permissionDenied ..) => return volume.setFile location closedFile
  | .error (.inappropriateType _ code _) =>
    return if code == folderCode then volume.addFolder location else volume
  | .error _ => return volume

/-- Make the folders and write the files that a run has added or changed. -/
def save (before after : Volume) : IO Unit := do
  for (location, entry) in after.listing do
    let path := String.ofList location.display
    match entry with
    | .folder _ =>
      unless before.isFolder location do
        let _ ← (IO.FS.createDir path).toBaseIO
    | .file file =>
      unless before.file? location == some file do
        IO.FS.writeBinFile path ⟨file.octets.toArray⟩

/-- A number with at least two digits. -/
def twoDigits (number : Int) : String :=
  (if number < 10 then "0" else "") ++ toString number

/-- The time of the day, as it is written in log records. -/
def now : IO Text := do
  let point ← Std.Time.PlainDateTime.now
  let day := toString (point.year : Int) ++ "-" ++ twoDigits point.month.val ++ "-" ++
    twoDigits point.day.val
  let time := twoDigits point.hour.val ++ ":" ++ twoDigits point.minute.val ++ ":" ++
    twoDigits point.second.val
  return (day ++ " " ++ time).toList

/-- The surroundings of a run with some arguments. -/
def surroundings (arguments : Arguments) : IO Surroundings := do
  let folder := (Path.ofText (toString (← IO.currentDir)).toList).names
  let configVariable := (← IO.getEnv Configuration.variableName).map String.toList
  let volume ← (places folder configVariable arguments).foldlM scan {}
  let input ←
    if arguments.input = Course.standardInput then (← IO.getStdin).readBinToEnd
    else pure ByteArray.empty
  return {
    volume, folder, configVariable
    input := input.toList
    isTerminal := ← (← IO.getStdout).isTty
    stamp := ← now }

/-- Print what a run has said, and give its exit code. -/
def finish (outcome : Outcome) : IO UInt32 := do
  IO.print (String.ofList outcome.output)
  IO.eprint (String.ofList outcome.errors)
  match outcome.ending with
  | .ok code => return code.number.toUInt32
  | .error _ =>
    IO.eprintln "Error: the run was broken off"
    return ExitCode.failure.number.toUInt32

end HtmlJsx.Main

open HtmlJsx in
/-- Run the command. -/
def main (words : List String) : IO UInt32 := do
  let words := words.map String.toList
  match Arguments.parse words with
  | .ok (.run arguments) =>
    let surroundings ← Main.surroundings arguments
    let outcome := surroundings.perform arguments
    Main.save surroundings.volume outcome.volume
    Main.finish outcome
  | _ => Main.finish (Surroundings.run { volume := {}, folder := [] } words)
