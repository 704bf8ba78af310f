import HtmlJsx.Files.Volume
import HtmlJsx.Log.Record

/-!
# Journals

Records go to the error stream and, if one is named, to a file.  A journal
says which records are kept, how they are written, and where the file is.
-/

namespace HtmlJsx

/-- Where log records go. -/
structure Journal where
  level : LogLevel
  /-- Whether records are written with the time and their source. -/
  detailed : Bool := false
  /-- The file that receives the records too. -/
  file : Option Location := none

/-- The error stream and the volume that records are written to. -/
structure Ledger where
  volume : Volume
  errors : Text := []

namespace Journal

/-- Whether a record is kept: its level is positive and not below that of the journal. -/
def keeps (journal : Journal) (record : LogRecord) : Bool :=
  0 < record.level && journal.level ≤ record.level

/-- The name of the root of all parts. -/
def rootSource : Text := "root".toList

/-- The line of a record; `stamp` is the time as text. -/
def line (journal : Journal) (stamp : Text) (record : LogRecord) : Text :=
  let level := LogLevel.display record.level
  if journal.detailed then
    let source := if record.source.isEmpty then rootSource else record.source
    '[' :: stamp ++ "] [".toList ++ level ++ "] [".toList ++ source ++ "] ".toList ++
      record.message ++ ['\n']
  else
    level ++ ": ".toList ++ record.message ++ ['\n']

/-- Write a record. -/
def write (journal : Journal) (stamp : Text) (ledger : Ledger) (record : LogRecord) : Ledger :=
  if journal.keeps record then
    let line := journal.line stamp record
    let volume := match journal.file with
      | some location => ledger.volume.append location (Utf8.encode line)
      | none => ledger.volume
    { volume, errors := ledger.errors ++ line }
  else
    ledger

/-- Write records in their order. -/
def writeAll (journal : Journal) (stamp : Text) (ledger : Ledger) (records : List LogRecord) :
    Ledger :=
  records.foldl (journal.write stamp) ledger

/-- The record of an opened log file. -/
def openedRecord (path : Text) : LogRecord :=
  ⟨[], LogLevel.debug, "Logging to file: ".toList ++ path⟩

/-- The record of a log file that cannot be opened. -/
def unopenedRecord (path detail : Text) : LogRecord :=
  ⟨[], LogLevel.warning, "Could not open log file ".toList ++ path ++ [':', ' '] ++ detail⟩

/--
Open a journal.  A log file is created if need be; one that cannot be opened
is reported in the journal, which then goes without.  A path that no file can
have is a fault.
-/
def start (folder : Location) (stamp : Text) (level : LogLevel) (detailed : Bool)
    (path : Option Text) (ledger : Ledger) : Except Fault (Journal × Ledger) :=
  let plain : Journal := { level, detailed }
  match path with
  | none => .ok (plain, ledger)
  | some [] => .ok (plain, ledger)
  | some path =>
    let absolute := (Path.ofText path).absolute folder
    if Path.isImpossible path then
      .error .value
    else
      match ledger.volume.writable [] absolute with
      | .ok location =>
        let journal := { plain with file := some location }
        let opened := { ledger with volume := ledger.volume.append location [] }
        .ok (journal, journal.write stamp opened (openedRecord path))
      | .error error =>
        .ok (plain, plain.write stamp ledger (unopenedRecord path (error.message absolute.display)))

end Journal

end HtmlJsx
