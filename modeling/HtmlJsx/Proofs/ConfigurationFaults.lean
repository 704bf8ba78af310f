import HtmlJsx.Proofs.Location
import HtmlJsx.Settings.Configuration

/-!
# How loading a configuration fails

A configuration file that is missing, unreadable, of an unknown type, malformed
or of the wrong shape is reported, and the report names its path.  Three
failures are not reported and break loading off: octets that are not text,
values that the reader of the format cannot make, and a project file whose
`tool` entry is no table.

Two limits of the system are left out: the depth of recursion, which a document
that is nested very deep can exceed, and errors of looking a path up, because a
name in it is too long or a folder on the way may not be entered.
-/

namespace HtmlJsx.Configuration

open Outcome

/-! ## Reported problems -/

/-- Whether a problem is reported as one of the configuration file at a path. -/
def Names (shown : Text) (problem : Problem) : Prop :=
  ∃ report, problem.report = .ok report ∧ report.concern = .configuration (some shown)

/-- Whether a result has been reached, or a problem that names the path. -/
def IsReported {α : Type} (shown : Text) (result : Except Problem α) : Prop :=
  ∀ problem, result = .error problem → Names shown problem

/-- Whether a result breaks off if it is not reported. -/
def IsSettled {α : Type} (shown : Text) (result : Except Problem α) : Prop :=
  ∀ problem, result = .error problem → Names shown problem ∨ ∃ fault, problem = .fault fault

theorem not_names_fault {shown : Text} {fault : Fault} : ¬ Names shown (.fault fault) := by
  rintro ⟨report, reported, -⟩
  cases reported

theorem IsSettled.isReported_iff {α : Type} {shown : Text} {result : Except Problem α}
    (settled : IsSettled shown result) :
    IsReported shown result ↔ ∀ fault, result ≠ .error (.fault fault) := by
  constructor
  · intro reported fault broken
    exact not_names_fault (reported _ broken)
  · intro unbroken problem failed
    rcases settled problem failed with named | ⟨fault, rfl⟩
    · exact named
    · exact absurd failed (unbroken fault)

theorem isSettled_ok {α : Type} (shown : Text) (value : α) :
    IsSettled shown (.ok value : Except Problem α) := nofun

theorem isSettled_error {α : Type} {shown : Text} {problem : Problem}
    (known : Names shown problem ∨ ∃ fault, problem = .fault fault) :
    IsSettled shown (.error problem : Except Problem α) := by
  rintro other ⟨⟩
  exact known

theorem IsSettled.bind {α β : Type} {shown : Text} {result : Except Problem α}
    {next : α → Except Problem β} (settled : IsSettled shown result)
    (later : ∀ value, IsSettled shown (next value)) : IsSettled shown (result >>= next) := by
  cases result with
  | error problem => exact isSettled_error (settled problem rfl)
  | ok value => exact later value

/-! ## The ways to break off -/

/-- How a configuration file is read. -/
inductive FileKind where
  | project
  | document (format : DocumentFormat)

/-- The format of a kind of file. -/
def FileKind.format : FileKind → DocumentFormat
  | .project => .toml
  | .document format => format

/-- The kind of the file at a path, which its name tells. -/
def kind? (path : Path) : Option FileKind :=
  if Text.lower path.name = projectName then some .project
  else (format? (Text.lower path.suffix)).map .document

/-- The fault of the reader of a format that cannot make a value of a document. -/
def readerFault? : DocumentFormat → Text → Option Fault
  | .toml, text =>
    match Toml.document text with
    | .error .tooManyDigits => some .value
    | _ => none
  | .yaml, text =>
    match Yaml.document (Text.unifyBreaks text) with
    | .error (.fault fault) => some fault
    | _ => none
  | .json, text =>
    match Json.document (Text.unifyBreaks text) with
    | .error .tooManyDigits => some .value
    | _ => none

/-- How reading octets as a document of a format breaks off. -/
inductive Unreadable (format : DocumentFormat) (octets : List UInt8) : Fault → Prop
  /-- The octets are not text. -/
  | undecodable {failure : Utf8.Failure} :
      Utf8.decode octets = .error failure → Unreadable format octets .encoding
  /-- The reader of the format cannot make a value. -/
  | unmakeable {text : Text} {fault : Fault} :
      Utf8.decode octets = .ok text → readerFault? format text = some fault →
        Unreadable format octets fault

/-- How reading a file breaks off. -/
inductive BreaksOff : FileKind → List UInt8 → Fault → Prop
  | unreadable {kind : FileKind} {octets : List UInt8} {fault : Fault} :
      Unreadable kind.format octets fault → BreaksOff kind octets fault
  /-- The entry of a project file that holds its sections is no table. -/
  | toolNotATable {octets : List UInt8} {text : Text} {entries : Configuration} {tool : Value} :
      Utf8.decode octets = .ok text → Toml.document text = .ok (.map entries) →
        Value.field? entries "tool" = some tool → (∀ sections, tool ≠ .map sections) →
          BreaksOff .project octets .member

/-! ## Reading a document -/

/-- What a reader answers to a text, beside the fault that it breaks off with, if any. -/
inductive Answers (shown : Text) : Except Problem Value → Option Fault → Prop
  | value (value : Value) : Answers shown (.ok value) none
  | refusal {problem : Problem} (named : Names shown problem) : Answers shown (.error problem) none
  | fault (fault : Fault) : Answers shown (.error (.fault fault)) (some fault)

theorem Answers.isSettled {shown : Text} {result : Except Problem Value} {own : Option Fault}
    (answers : Answers shown result own) : IsSettled shown result := by
  cases answers with
  | value value => exact isSettled_ok shown value
  | refusal named => exact isSettled_error (.inl named)
  | fault fault => exact isSettled_error (.inr ⟨fault, rfl⟩)

theorem Answers.fault_iff {shown : Text} {result : Except Problem Value} {own : Option Fault}
    (answers : Answers shown result own) {fault : Fault} :
    result = .error (.fault fault) ↔ own = some fault := by
  cases answers with
  | value value => exact ⟨nofun, nofun⟩
  | refusal named =>
    refine ⟨?_, nofun⟩
    rintro ⟨⟩
    exact absurd named not_names_fault
  | fault other => exact ⟨fun | rfl => rfl, fun | rfl => rfl⟩

/-- What is known of a reader of documents. -/
structure ReadsAs (shown : Text) (format : DocumentFormat) (octets : List UInt8)
    (result : Except Problem Value) : Prop where
  settled : IsSettled shown result
  fault_iff (fault : Fault) : result = .error (.fault fault) ↔ Unreadable format octets fault

/-- A reader decodes its octets first, so only what follows is particular to it. -/
theorem readsAs_of_answers {shown : Text} {format : DocumentFormat}
    {read : Text → Except Problem Value}
    (answers : ∀ text, Answers shown (read text) (readerFault? format text))
    (octets : List UInt8) : ReadsAs shown format octets (decoded octets >>= read) := by
  rw [decoded]
  cases decoding : Utf8.decode octets with
  | error failure =>
    refine ⟨isSettled_error (.inr ⟨_, rfl⟩), fun fault => ⟨?_, ?_⟩⟩
    · rintro ⟨⟩
      exact .undecodable decoding
    · rintro (_ | ⟨decoded, -⟩)
      · rfl
      · rw [decoding] at decoded
        cases decoded
  | ok text =>
    refine ⟨(answers text).isSettled, fun fault => (answers text).fault_iff.trans
      ⟨.unmakeable decoding, ?_⟩⟩
    rintro (failed | ⟨decoded, own⟩)
    · rw [decoding] at failed
      cases failed
    · rw [decoding] at decoded
      cases decoded
      exact own

theorem readsAs_readToml {shown : Text} {problem : Problem} (named : Names shown problem)
    (octets : List UInt8) : ReadsAs shown .toml octets (readToml problem octets) := by
  apply readsAs_of_answers
  intro text
  rw [readerFault?]
  rcases Toml.document text with (malformed | tooManyDigits) | value
  · exact .refusal named
  · exact .fault .value
  · exact .value value

theorem readsAs_readYaml (shown : Text) (octets : List UInt8) :
    ReadsAs shown .yaml octets (readYaml shown octets) := by
  rw [readYaml, decodedLines, bind_map]
  apply readsAs_of_answers
  intro text
  rw [readerFault?]
  rcases Yaml.document (Text.unifyBreaks text) with (malformed | fault) | value
  · exact .refusal ⟨_, rfl, rfl⟩
  · exact .fault fault
  · exact .value value

theorem readsAs_readJson (shown : Text) (octets : List UInt8) :
    ReadsAs shown .json octets (readJson shown octets) := by
  rw [readJson, decodedLines, bind_map]
  apply readsAs_of_answers
  intro text
  rw [readerFault?]
  rcases Json.document (Text.unifyBreaks text) with (⟨complaint, remaining⟩ | tooManyDigits) | value
  · exact .refusal ⟨_, rfl, rfl⟩
  · exact .fault .value
  · exact .value value

theorem readsAs_readDocument (shown : Text) (octets : List UInt8) (format : DocumentFormat) :
    ReadsAs shown format octets (readDocument shown octets format) := by
  cases format with
  | toml => exact readsAs_readToml ⟨_, rfl, rfl⟩ octets
  | yaml => exact readsAs_readYaml shown octets
  | json => exact readsAs_readJson shown octets

/-! ## The shape of a document -/

theorem isSettled_entriesOf (shown : Text) (value : Value) :
    IsSettled shown (entriesOf shown value) := by
  unfold entriesOf
  split
  · exact isSettled_ok shown _
  · exact isSettled_ok shown _
  · exact isSettled_error (.inl ⟨_, rfl, rfl⟩)

theorem entriesOf_ne_fault (shown : Text) (value : Value) (fault : Fault) :
    entriesOf shown value ≠ .error (.fault fault) := by
  unfold entriesOf
  split
  · nofun
  · nofun
  · nofun

theorem isSettled_sectionOf (shown : Text) (value : Value) :
    IsSettled shown (sectionOf shown value) := by
  unfold sectionOf
  split
  · split
    · split
      · exact isSettled_ok shown _
      · exact isSettled_error (.inl ⟨_, rfl, rfl⟩)
    · exact isSettled_error (.inr ⟨_, rfl⟩)
  · exact isSettled_error (.inr ⟨_, rfl⟩)

/-- The section of a project document is looked for in its `tool` entry, which must be a table. -/
theorem sectionOf_eq_fault_iff {shown : Text} {entries : Configuration} {fault : Fault} :
    sectionOf shown (.map entries) = .error (.fault fault) ↔
      fault = .member ∧ ∃ tool, Value.field? entries "tool" = some tool ∧
        ∀ sections, tool ≠ .map sections := by
  simp only [sectionOf]
  cases found : Value.field? entries "tool" with
  | none =>
    refine ⟨nofun, ?_⟩
    rintro ⟨-, tool, ⟨⟩, -⟩
  | some tool =>
    simp only [Option.getD_some]
    split
    · next sections =>
      constructor
      · intro failed
        split at failed
        · cases failed
        · cases failed
      · rintro ⟨-, _, ⟨⟩, odd⟩
        exact absurd rfl (odd sections)
    · next odd =>
      constructor
      · rintro ⟨⟩
        exact ⟨rfl, tool, rfl, odd⟩
      · rintro ⟨rfl, -⟩
        rfl

theorem exists_map_of_document {text : Text} {value : Value}
    (read : Toml.document text = .ok value) : ∃ entries, value = .map entries := by
  obtain ⟨draft, -, made⟩ := bind_eq_ok_iff.mp read
  cases made
  exact ⟨_, rfl⟩

theorem readToml_eq_ok_iff {problem : Problem} {octets : List UInt8} {value : Value} :
    readToml problem octets = .ok value ↔
      ∃ text, Utf8.decode octets = .ok text ∧ Toml.document text = .ok value := by
  rw [readToml, bind_eq_ok_iff, decoded]
  simp only [mapError_eq_ok_iff]
  apply exists_congr
  intro text
  apply and_congr_right
  intro decoding
  rcases Toml.document text with (_ | _) | found
  · exact ⟨nofun, nofun⟩
  · exact ⟨nofun, nofun⟩
  · exact ⟨fun | rfl => rfl, fun | rfl => rfl⟩

/-! ## Files -/

/-- A document that is read and has entries, or is not read for the reason of its reader. -/
theorem entries_eq_fault_iff {shown : Text} {format : DocumentFormat} {octets : List UInt8}
    {result : Except Problem Value} (reads : ReadsAs shown format octets result) {fault : Fault} :
    result >>= entriesOf shown = .error (.fault fault) ↔
      BreaksOff (.document format) octets fault := by
  rw [bind_eq_error_iff, reads.fault_iff]
  constructor
  · rintro (unreadable | ⟨value, -, failed⟩)
    · exact .unreadable unreadable
    · exact absurd failed (entriesOf_ne_fault shown value fault)
  · rintro (unreadable | _)
    exact .inl unreadable

theorem section_eq_fault_iff {shown : Text} {octets : List UInt8} {fault : Fault} :
    readToml (.badProject shown detail) octets >>= sectionOf shown = .error (.fault fault) ↔
      BreaksOff .project octets fault := by
  have reads : ReadsAs shown .toml octets (readToml (.badProject shown detail) octets) :=
    readsAs_readToml ⟨_, rfl, rfl⟩ octets
  rw [bind_eq_error_iff, reads.fault_iff]
  constructor
  · rintro (unreadable | ⟨value, read, failed⟩)
    · exact .unreadable unreadable
    · obtain ⟨text, decoding, document⟩ := readToml_eq_ok_iff.mp read
      obtain ⟨entries, rfl⟩ := exists_map_of_document document
      obtain ⟨rfl, tool, found, odd⟩ := sectionOf_eq_fault_iff.mp failed
      exact .toolNotATable decoding document found odd
  · rintro (unreadable | ⟨decoding, document, found, odd⟩)
    · exact .inl unreadable
    · exact .inr ⟨_, readToml_eq_ok_iff.mpr ⟨_, decoding, document⟩,
        sectionOf_eq_fault_iff.mpr ⟨rfl, _, found, odd⟩⟩

section Opening

variable {α : Type} {shown : Text} {file : File} {problem : FileError → Problem}
  {next : List UInt8 → Except Problem α}

/-- A file that cannot be read is reported. -/
theorem isSettled_opening (named : ∀ error, Names shown (problem error))
    (later : ∀ octets, IsSettled shown (next octets)) :
    IsSettled shown (file.read.mapError problem >>= next) := by
  apply IsSettled.bind _ later
  cases file.read with
  | error error => exact isSettled_error (.inl (named error))
  | ok octets => exact isSettled_ok shown octets

theorem opening_eq_fault_iff (named : ∀ error, Names shown (problem error)) {fault : Fault} :
    file.read.mapError problem >>= next = .error (.fault fault) ↔
      ∃ octets, file.read = .ok octets ∧ next octets = .error (.fault fault) := by
  cases file.read with
  | error error =>
    constructor
    · intro broken
      have same : problem error = .fault fault := Except.error.inj broken
      exact absurd (same ▸ named error) not_names_fault
    · rintro ⟨octets, ⟨⟩, -⟩
  | ok octets =>
    constructor
    · exact fun broken => ⟨octets, rfl, broken⟩
    · rintro ⟨_, ⟨⟩, broken⟩
      exact broken

end Opening

theorem isSettled_readProject (shown : Text) (file : File) :
    IsSettled shown (readProject shown file) := by
  apply isSettled_opening fun _ => ⟨_, rfl, rfl⟩
  exact fun octets => (readsAs_readToml ⟨_, rfl, rfl⟩ octets).settled.bind (isSettled_sectionOf _)

theorem readProject_eq_fault_iff {shown : Text} {file : File} {fault : Fault} :
    readProject shown file = .error (.fault fault) ↔
      ∃ octets, file.read = .ok octets ∧ BreaksOff .project octets fault := by
  rw [readProject, opening_eq_fault_iff fun _ => ⟨_, rfl, rfl⟩]
  simp only [section_eq_fault_iff]

theorem isSettled_readFile (path : Path) (file : File) :
    IsSettled path.display (readFile path file) := by
  rw [readFile]
  split
  · exact isSettled_readProject _ file
  · split
    · next format _ =>
      apply isSettled_opening fun _ => ⟨_, rfl, rfl⟩
      exact fun octets =>
        (readsAs_readDocument _ octets format).settled.bind (isSettled_entriesOf _)
    · exact isSettled_error (.inl ⟨_, rfl, rfl⟩)

theorem readFile_eq_fault_iff {path : Path} {file : File} {fault : Fault} :
    readFile path file = .error (.fault fault) ↔
      ∃ octets kind, file.read = .ok octets ∧ kind? path = some kind ∧
        BreaksOff kind octets fault := by
  rw [readFile, kind?]
  split
  · simp only [readProject_eq_fault_iff, Option.some.injEq, exists_and_left, exists_eq_left']
  · split
    · next format known =>
      rw [opening_eq_fault_iff fun _ => ⟨_, rfl, rfl⟩]
      simp only [entries_eq_fault_iff (readsAs_readDocument _ _ format), known, Option.map_some,
        Option.some.injEq, exists_and_left, exists_eq_left']
    · next unknown =>
      simp only [unknown, Option.map_none]
      constructor
      · rintro ⟨⟩
      · rintro ⟨_, _, _, ⟨⟩, _⟩

/--
Loading a configuration gives its entries or a problem that is reported with
the path, unless there is a file of a known kind and reading it breaks off.
-/
theorem load_isReported_iff (volume : Volume) (folder : Location) (path : Text) :
    IsReported (Path.ofText path).display (load volume folder path) ↔
      ∀ octets kind fault, volume.read folder (Path.ofText path) = .ok octets →
        kind? (Path.ofText path) = some kind → ¬ BreaksOff kind octets fault := by
  simp only [Volume.read_eq_ok_iff]
  rw [load]
  cases present : volume.fileAt? folder (Path.ofText path) with
  | none =>
    constructor
    · rintro - octets kind fault ⟨_, ⟨⟩, -⟩
    · rintro - problem ⟨⟩
      exact ⟨_, rfl, rfl⟩
  | some file =>
    rw [(isSettled_readFile _ file).isReported_iff]
    simp only [ne_eq, readFile_eq_fault_iff]
    constructor
    · rintro unbroken octets kind fault ⟨_, ⟨⟩, content⟩ known breaks
      exact unbroken fault ⟨octets, kind, content, known, breaks⟩
    · rintro unbroken fault ⟨octets, kind, content, known, breaks⟩
      exact unbroken octets kind fault ⟨file, rfl, content⟩ known breaks

/-- A volume with one file in its root folder. -/
def volumeOf (name : Text) (octets : List UInt8) : Volume :=
  ({} : Volume).setContent [name] octets

/-- Whether a result breaks off with a fault. -/
def isFault (fault : Fault) : Except Problem Configuration → Bool
  | .error (.fault other) => other == fault
  | _ => false

theorem not_isReported_of_isFault {shown : Text} {fault : Fault}
    {result : Except Problem Configuration} (broken : isFault fault result = true) :
    ¬ IsReported shown result := by
  unfold isFault at broken
  split at broken
  · exact fun reported => not_names_fault (reported _ rfl)
  · cases broken

/-- A project file whose `tool` entry is a number, and a file that is not text. -/
theorem load_not_isReported :
    ¬ IsReported (Path.ofText projectName).display
        (load (volumeOf projectName ("tool = 1".toList.map fun c => .ofNat c.toNat)) []
          projectName) ∧
      ¬ IsReported (Path.ofText ".html2jsx.json".toList).display
        (load (volumeOf ".html2jsx.json".toList [0xFF]) [] ".html2jsx.json".toList) :=
  ⟨@not_isReported_of_isFault _ .member _ (by decide +kernel),
    @not_isReported_of_isFault _ .encoding _ (by decide +kernel)⟩

end HtmlJsx.Configuration
