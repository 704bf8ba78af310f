import HtmlJsx.Files.FileError
import HtmlJsx.Files.Path
import HtmlJsx.Files.Utf8

/-!
# Volumes

A volume is a tree of folders with files in them.  Operations take a path and
the working folder, and fail the way a file system does.  A file that is there
can still refuse to be read or to be written.
-/

namespace HtmlJsx

/-- A file. -/
structure File where
  octets : List UInt8 := []
  /-- Why the file cannot be read, if it cannot. -/
  unreadable : Option Refusal := none
  /-- Why the file cannot be written, if it cannot. -/
  unwritable : Option Refusal := none
  deriving Repr, DecidableEq

/-- The content of a file. -/
def File.read (file : File) : Except FileError (List UInt8) :=
  match file.unreadable with
  | none => .ok file.octets
  | some refusal => .error (.refused refusal)

/-- Whether a text can be the name of a file or folder. -/
def isFileName (name : Text) : Bool :=
  !name.isEmpty && name != ['.'] && name != ['.', '.'] &&
    !name.contains '/' && !name.contains '\x00'

/-- The name of a file or folder. -/
structure FileName where
  text : Text
  proper : isFileName text = true
  deriving Repr, DecidableEq

/-- A file, or a folder with what lies in it. -/
inductive Entry where
  | file (file : File)
  | folder (entries : List (FileName × Entry))

namespace Entry

/-- The entry with a name; if there were several, the first would count. -/
def named? (entries : List (FileName × Entry)) (name : Text) : Option Entry :=
  (entries.find? fun entry => entry.1.text == name).map Prod.snd

/-- What lies at a location inside an entry. -/
def at? : Location → Entry → Option Entry
  | [], entry => some entry
  | _ :: _, .file _ => none
  | name :: rest, .folder entries => (named? entries name).bind (at? rest)

/-- Put an entry in the place of the one with its name, or at the end if there is none. -/
def place (name : Text) (entry : Entry) :
    List (FileName × Entry) → List (FileName × Entry)
  | [] => if proper : isFileName name = true then [(⟨name, proper⟩, entry)] else []
  | (other, old) :: rest =>
    if other.text = name then (other, entry) :: rest else (other, old) :: place name entry rest

/--
Change what lies at a location inside a folder.  Folders on the way are made if
need be; beyond a file there is nothing to change.
-/
def alter (change : Option Entry → Entry) :
    Location → List (FileName × Entry) → List (FileName × Entry)
  | [], entries => entries
  | [name], entries => place name (change (named? entries name)) entries
  | name :: next :: rest, entries =>
    match named? entries name with
    | none => place name (.folder (alter change (next :: rest) [])) entries
    | some (.folder inner) => place name (.folder (alter change (next :: rest) inner)) entries
    | some (.file _) => entries

mutual

/-- An entry at a location and all that lies in it, folders before what they hold. -/
def listing (here : Location) : Entry → List (Location × Entry)
  | .file leaf => [(here, .file leaf)]
  | .folder entries => (here, .folder entries) :: listingOf here entries

/-- The entries of a folder at a location and all that lies in them. -/
def listingOf (here : Location) : List (FileName × Entry) → List (Location × Entry)
  | [] => []
  | (name, entry) :: rest => listing (here ++ [name.text]) entry ++ listingOf here rest

end

end Entry

/-- Files and folders, by what lies in the root folder. -/
structure Volume where
  entries : List (FileName × Entry) := []

namespace Volume

/-- What lies at a location. -/
def at? (volume : Volume) (location : Location) : Option Entry :=
  Entry.at? location (.folder volume.entries)

/-- The file at a location. -/
def file? (volume : Volume) (location : Location) : Option File :=
  match volume.at? location with
  | some (.file file) => some file
  | _ => none

/-- Whether there is a folder at a location; the root always is one. -/
def isFolder (volume : Volume) (location : Location) : Bool :=
  match volume.at? location with
  | some (.folder _) => true
  | _ => false

/-- Everything that lies in a volume, folders before what they hold. -/
def listing (volume : Volume) : List (Location × Entry) :=
  Entry.listingOf [] volume.entries

/-- Put a file at a location, unless there is a folder. -/
def setFile (volume : Volume) (location : Location) (file : File) : Volume :=
  let change : Option Entry → Entry
    | some (.folder entries) => .folder entries
    | _ => .file file
  ⟨Entry.alter change location volume.entries⟩

/-- Set the content of a file, which is made if need be. -/
def setContent (volume : Volume) (location : Location) (octets : List UInt8) : Volume :=
  volume.setFile location { (volume.file? location).getD {} with octets }

/-- Add a folder and the folders around it. -/
def addFolder (volume : Volume) (location : Location) : Volume :=
  ⟨Entry.alter (Option.getD · (.folder [])) location volume.entries⟩

/-- Follow names from a location; every name but the last must lead to a folder. -/
def follow (volume : Volume) : Location → List Text → Except FileError Location
  | here, [] => .ok here
  | here, name :: rest =>
    if volume.isFolder here then
      follow volume (if name == ['.', '.'] then here.dropLast else here ++ [name]) rest
    else if (volume.file? here).isSome then
      .error .notAFolder
    else
      .error .missing

/-- The location of a path; the last name need not be present. -/
def locate (volume : Volume) (folder : Location) (path : Path) : Except FileError Location :=
  volume.follow (path.start folder) path.names

/-- The file at a path. -/
def fileAt? (volume : Volume) (folder : Location) (path : Path) : Option File :=
  match volume.locate folder path with
  | .ok location => volume.file? location
  | .error _ => none

/-- Whether there is a folder at a path. -/
def isFolderAt (volume : Volume) (folder : Location) (path : Path) : Bool :=
  match volume.locate folder path with
  | .ok location => volume.isFolder location
  | .error _ => false

/-- The content of the file at a path. -/
def read (volume : Volume) (folder : Location) (path : Path) : Except FileError (List UInt8) := do
  let location ← volume.locate folder path
  match volume.file? location with
  | some file => file.read
  | none => if volume.isFolder location then .error .isAFolder else .error .missing

/-- The location of a file that can be written at a path. -/
def writable (volume : Volume) (folder : Location) (path : Path) : Except FileError Location := do
  let location ← volume.locate folder path
  if volume.isFolder location then .error .isAFolder
  else
    match (volume.file? location).bind File.unwritable with
    | some refusal => .error (.refused refusal)
    | none => return location

/-- Replace the content of the file at a path. -/
def write (volume : Volume) (folder : Location) (path : Path) (content : List UInt8) :
    Except FileError Volume := do
  return volume.setContent (← volume.writable folder path) content

/-- Add to the end of a file. -/
def append (volume : Volume) (location : Location) (content : List UInt8) : Volume :=
  volume.setContent location (((volume.file? location).map File.octets).getD [] ++ content)

/-- Make a folder at a path where nothing is. -/
def makeFolder (volume : Volume) (folder : Location) (path : Path) : Except FileError Volume := do
  let location ← volume.locate folder path
  if volume.isFolder location || (volume.file? location).isSome then .error .exists
  else return volume.addFolder location

/-- Make sure that there is a folder at a path; a failure names the path it is about. -/
def ensureFolder (folder : Location) (path : Path) (volume : Volume) :
    Except (FileError × Path) Volume :=
  ensure path.names.reverse
where
  /-- Go on after an attempt to make a folder, unless nothing else will do. -/
  accept (target : Path) (volume : Volume) :
      Except FileError Volume → Except (FileError × Path) Volume
    | .ok made => .ok made
    | .error error =>
      if volume.isFolderAt folder target then .ok volume else .error (error, target)
  /-- Make sure of the folder whose names, in reverse, are given, after those around it. -/
  ensure : List Text → Except (FileError × Path) Volume
    | [] => .ok volume
    | name :: outer =>
      let target : Path := { path with names := (name :: outer).reverse }
      match volume.makeFolder folder target with
      | .error .missing => do
        let outside ← ensure outer
        accept target outside (outside.makeFolder folder target)
      | attempt => accept target volume attempt

end Volume

/-- One line feed for every line break. -/
def Text.unifyBreaks : Text → Text
  | [] => []
  | '\r' :: '\n' :: rest => '\n' :: unifyBreaks rest
  | c :: rest => (if c = '\r' then '\n' else c) :: unifyBreaks rest

/-- The text of octets, one line feed for every line break. -/
def Utf8.decodeLines (octets : List UInt8) : Except Utf8.Failure Text :=
  (Utf8.decode octets).map Text.unifyBreaks

end HtmlJsx
