import HtmlJsx.Proofs.ConfigurationFaults
import HtmlJsx.Proofs.Location

/-!
# The nearest configuration

From a folder outward, the file that is found lies in the nearest folder that
has a configuration: a dedicated file, or a project file whose section has
entries.  A project file that cannot be read, is malformed or says nothing is
passed over and hides nothing, while a dedicated file counts whatever it
contains and even if it cannot be read.  So nothing that lies further out than
the file that is found has a say in what is found.

A path that the system refuses to look up is left out, as it is in loading.
-/

namespace HtmlJsx.Configuration

open Outcome

/-! ## What a folder offers -/

/-- The file can be read and is a project document whose section has these entries. -/
def HasSection (file : File) (entries : Configuration) : Prop :=
  ∃ octets text document tools, file.read = .ok octets ∧
    Utf8.decode octets = .ok text ∧ Toml.document text = .ok (.map document) ∧
    Value.field? document "tool" = some (.map tools) ∧
    Value.find? tools (.text Problem.projectSection) = some (.map entries)

/-- A folder has a file with one of the names of dedicated files. -/
def HasDedicated (volume : Volume) (folder : Location) : Prop :=
  ∃ name ∈ fileNames, (volume.file? (folder ++ [name])).isSome = true

/-- A folder has a project file whose section has entries. -/
def HasProject (volume : Volume) (folder : Location) : Prop :=
  ∃ file entries, volume.file? (folder ++ [projectName]) = some file ∧
    HasSection file entries ∧ entries ≠ []

/-- A folder has a configuration. -/
def IsConfigured (volume : Volume) (folder : Location) : Prop :=
  HasDedicated volume folder ∨ HasProject volume folder

/-- The file that counts in a folder. -/
inductive IsChoice (volume : Volume) (folder : Location) : Location → Prop
  /-- The first of the dedicated files that are there. -/
  | dedicated {before after : List Text} {name : Text} :
      fileNames = before ++ name :: after →
        (volume.file? (folder ++ [name])).isSome = true →
          (∀ earlier ∈ before, volume.file? (folder ++ [earlier]) = none) →
            IsChoice volume folder (folder ++ [name])
  /-- The project file, if there is no dedicated one. -/
  | project :
      ¬ HasDedicated volume folder → HasProject volume folder →
        IsChoice volume folder (folder ++ [projectName])

theorem IsChoice.isConfigured {volume : Volume} {folder location : Location}
    (choice : IsChoice volume folder location) : IsConfigured volume folder := by
  cases choice with
  | dedicated names present _ =>
    refine .inl ⟨_, ?_, present⟩
    rw [names]
    exact List.mem_append_cons_self
  | project _ project => exact .inr project

theorem IsChoice.dropLast {volume : Volume} {folder location : Location}
    (choice : IsChoice volume folder location) : location.dropLast = folder := by
  cases choice <;> exact List.dropLast_concat

/-- A project file counts only if its section has entries. -/
theorem IsChoice.hasProject {volume : Volume} {folder : Location}
    (choice : IsChoice volume folder (folder ++ [projectName])) : HasProject volume folder := by
  generalize shown : folder ++ [projectName] = location at choice
  cases choice with
  | @dedicated before after name names _ _ =>
    have same : projectName = name := List.singleton_inj.mp (List.append_cancel_left shown)
    have member : projectName ∈ fileNames := by
      rw [names, same]
      exact List.mem_append_cons_self
    exact absurd member (by decide)
  | project _ project => exact project

/-! ## Dedicated files -/

theorem dedicated?_eq_none_iff {volume : Volume} {folder : Location} :
    dedicated? volume folder = none ↔ ¬ HasDedicated volume folder := by
  simp [dedicated?, HasDedicated]

theorem isChoice_of_dedicated? {volume : Volume} {folder location : Location}
    (found : dedicated? volume folder = some location) : IsChoice volume folder location := by
  obtain ⟨present, before, after, split, absent⟩ := List.find?_eq_some_iff_append.mp found
  obtain ⟨names, others, all, rfl, tail⟩ := List.map_eq_append_iff.mp split
  obtain ⟨name, more, rfl, rfl, rfl⟩ := List.map_eq_cons_iff.mp tail
  refine .dedicated all present ?_
  intro earlier member
  simpa using absent _ (List.mem_map_of_mem member)

/-! ## Project files -/

theorem sectionOf_eq_ok_iff {shown : Text} {document entries : Configuration}
    (filled : entries ≠ []) :
    sectionOf shown (.map document) = .ok entries ↔
      ∃ tools, Value.field? document "tool" = some (.map tools) ∧
        Value.find? tools (.text Problem.projectSection) = some (.map entries) := by
  constructor
  · intro found
    rw [sectionOf] at found
    cases tool : Value.field? document "tool" with
    | none =>
      rw [tool] at found
      exact absurd (Except.ok.inj found).symm filled
    | some value =>
      rw [tool, Option.getD_some] at found
      split at found
      · next tools =>
        cases project : Value.find? tools (.text Problem.projectSection) with
        | none =>
          rw [project] at found
          exact absurd (Except.ok.inj found).symm filled
        | some inner =>
          rw [project, Option.getD_some] at found
          split at found
          · cases found
            exact ⟨tools, rfl, project⟩
          · cases found
      · cases found
  · rintro ⟨tools, tool, project⟩
    simp only [sectionOf, tool, project, Option.getD_some]

theorem readProject_eq_ok_iff {shown : Text} {file : File} {entries : Configuration}
    (filled : entries ≠ []) :
    readProject shown file = .ok entries ↔ HasSection file entries := by
  rw [readProject, bind_eq_ok_iff]
  constructor
  · rintro ⟨octets, opened, rest⟩
    obtain ⟨value, read, found⟩ := bind_eq_ok_iff.mp rest
    obtain ⟨text, decoding, made⟩ := readToml_eq_ok_iff.mp read
    obtain ⟨document, rfl⟩ := exists_map_of_document made
    obtain ⟨tools, tool, project⟩ := (sectionOf_eq_ok_iff filled).mp found
    exact ⟨octets, text, document, tools, mapError_eq_ok_iff.mp opened, decoding, made, tool,
      project⟩
  · rintro ⟨octets, text, document, tools, opened, decoding, made, tool, project⟩
    refine ⟨octets, mapError_eq_ok_iff.mpr opened, bind_eq_ok_iff.mpr ⟨.map document, ?_, ?_⟩⟩
    · exact readToml_eq_ok_iff.mpr ⟨text, decoding, made⟩
    · exact (sectionOf_eq_ok_iff filled).mpr ⟨tools, tool, project⟩

theorem hasProject_iff {volume : Volume} {folder : Location} {file : File}
    (present : volume.file? (folder ++ [projectName]) = some file) (shown : Text) :
    HasProject volume folder ↔ ∃ entries, readProject shown file = .ok entries ∧ entries ≠ [] := by
  constructor
  · rintro ⟨_, entries, again, project, filled⟩
    rw [present] at again
    cases again
    exact ⟨entries, (readProject_eq_ok_iff filled).mpr project, filled⟩
  · rintro ⟨entries, read, filled⟩
    exact ⟨file, entries, present, (readProject_eq_ok_iff filled).mp read, filled⟩

/-- A folder has a project file that can be read, and reading its section breaks off. -/
def ProjectBreaksOff (volume : Volume) (folder : Location) (fault : Fault) : Prop :=
  ∃ file octets, volume.file? (folder ++ [projectName]) = some file ∧
    file.read = .ok octets ∧ BreaksOff .project octets fault

/-- How the project file of a folder is judged. -/
inductive Judges (volume : Volume) (folder : Location) : Except Problem Bool → Prop
  | counts : HasProject volume folder → Judges volume folder (.ok true)
  /-- The file is missing, cannot be read, is malformed or says nothing. -/
  | passes : ¬ HasProject volume folder → Judges volume folder (.ok false)
  | breaks {fault : Fault} :
      ProjectBreaksOff volume folder fault → Judges volume folder (.error (.fault fault))

theorem judges_projectCounts (volume : Volume) (folder : Location) :
    Judges volume folder (projectCounts volume folder).outcome := by
  simp only [projectCounts]
  cases present : volume.file? (folder ++ [projectName]) with
  | none =>
    apply Judges.passes
    rintro ⟨file, entries, again, -⟩
    rw [present] at again
    cases again
  | some file =>
    have project := hasProject_iff present (Location.display (folder ++ [projectName]))
    dsimp only
    cases read : readProject (Location.display (folder ++ [projectName])) file with
    | ok entries =>
      simp only [read, Except.ok.injEq, exists_eq_left'] at project
      cases entries with
      | nil => exact .passes fun counts => project.mp counts rfl
      | cons entry rest => exact .counts (project.mpr (List.cons_ne_nil _ _))
    | error problem =>
      rcases isSettled_readProject _ file problem read with ⟨report, reported, -⟩ | ⟨fault, rfl⟩
      · simp only [reported]
        apply Judges.passes
        simp [project, read]
      · obtain ⟨octets, opened, breaks⟩ := readProject_eq_fault_iff.mp read
        exact .breaks ⟨file, octets, present, opened, breaks⟩

/-! ## The folders on the way -/

/-- What a search over folders comes to. -/
inductive Finds (volume : Volume) (folders : List Location) :
    Except Problem (Option Location) → Prop
  /-- Nothing, since no folder has a configuration. -/
  | nothing :
      (∀ folder ∈ folders, ¬ IsConfigured volume folder) → Finds volume folders (.ok none)
  /-- The file that counts in the first folder that has one. -/
  | first {before after : List Location} {folder location : Location} :
      folders = before ++ folder :: after → (∀ nearer ∈ before, ¬ IsConfigured volume nearer) →
        IsChoice volume folder location → Finds volume folders (.ok (some location))
  /-- A fault, before any folder that has a configuration. -/
  | broken {before after : List Location} {folder : Location} {fault : Fault} :
      folders = before ++ folder :: after → (∀ nearer ∈ before, ¬ IsConfigured volume nearer) →
        ProjectBreaksOff volume folder fault → Finds volume folders (.error (.fault fault))

theorem Finds.cons {volume : Volume} {folder : Location} {rest : List Location}
    {outcome : Except Problem (Option Location)} (passed : ¬ IsConfigured volume folder)
    (found : Finds volume rest outcome) : Finds volume (folder :: rest) outcome := by
  cases found with
  | nothing none => exact .nothing (List.forall_mem_cons.mpr ⟨passed, none⟩)
  | first split nearer choice =>
    rw [split]
    exact .first rfl (List.forall_mem_cons.mpr ⟨passed, nearer⟩) choice
  | broken split nearer breaks =>
    rw [split]
    exact .broken rfl (List.forall_mem_cons.mpr ⟨passed, nearer⟩) breaks

theorem finds_search (volume : Volume) (folders : List Location) :
    Finds volume folders (search volume folders).outcome := by
  induction folders with
  | nil => exact .nothing (List.forall_mem_nil _)
  | cons folder rest induction =>
    simp only [search]
    cases found : dedicated? volume folder with
    | some location =>
      exact .first (List.nil_append _).symm (List.forall_mem_nil _) (isChoice_of_dedicated? found)
    | none =>
      have undedicated := dedicated?_eq_none_iff.mp found
      have judged := judges_projectCounts volume folder
      generalize (projectCounts volume folder).outcome = verdict at judged ⊢
      cases judged with
      | counts project =>
        exact .first (List.nil_append _).symm (List.forall_mem_nil _) (.project undedicated project)
      | passes absent => exact induction.cons (not_or.mpr ⟨undedicated, absent⟩)
      | breaks breaks =>
        exact .broken (List.nil_append _).symm (List.forall_mem_nil _) breaks

/--
A search from a folder outward returns, or a project file breaks it off that can
be read.  One that cannot be read or is malformed does not.
-/
theorem find_returns_or_breaksOff (volume : Volume) (start : Location) :
    (∃ result, (find volume start).outcome = .ok result) ∨
      ∃ folder fault, folder <+: start ∧ ProjectBreaksOff volume folder fault ∧
        (find volume start).outcome = .error (.fault fault) := by
  have found : Finds volume start.outward (find volume start).outcome := finds_search ..
  generalize (find volume start).outcome = outcome at found ⊢
  cases found with
  | nothing _ => exact .inl ⟨none, rfl⟩
  | @first _ _ _ location _ _ _ => exact .inl ⟨some location, rfl⟩
  | @broken _ _ folder fault visited _ breaks =>
    exact .inr ⟨folder, fault, Location.isPrefix_of_visited visited, breaks, rfl⟩

/-! ## The files that have a say -/

/-- Two volumes have the same files in a folder. -/
def SameFiles (volume other : Volume) (folder : Location) : Prop :=
  ∀ name, other.file? (folder ++ [name]) = volume.file? (folder ++ [name])

theorem SameFiles.dedicated? {volume other : Volume} {folder : Location}
    (same : SameFiles volume other folder) :
    dedicated? other folder = dedicated? volume folder := by
  rw [Configuration.dedicated?, Configuration.dedicated?, List.find?_map, List.find?_map]
  congr 2
  funext name
  exact congrArg Option.isSome (same name)

theorem SameFiles.projectCounts {volume other : Volume} {folder : Location}
    (same : SameFiles volume other folder) :
    projectCounts other folder = projectCounts volume folder := by
  rw [Configuration.projectCounts, Configuration.projectCounts, same projectName]

/-- A search does not look beyond the first folder that has a configuration. -/
theorem search_congr {volume other : Volume} {before after : List Location} {folder : Location}
    (same : ∀ visited ∈ before ++ [folder], SameFiles volume other visited)
    (configured : IsConfigured volume folder) :
    search other (before ++ folder :: after) = search volume (before ++ folder :: after) := by
  induction before with
  | nil =>
    have here := same folder (by simp)
    rw [List.nil_append, search, search, here.dedicated?, here.projectCounts]
    cases found : dedicated? volume folder with
    | some location => rfl
    | none =>
      -- The rest is not searched, since the project file of this folder counts.
      have project := configured.resolve_left (dedicated?_eq_none_iff.mp found)
      have judged := judges_projectCounts volume folder
      dsimp only
      generalize (projectCounts volume folder).outcome = verdict at judged ⊢
      cases judged with
      | counts _ => rfl
      | passes absent => exact absurd project absent
      | breaks _ => rfl
  | cons nearer rest induction =>
    rw [List.cons_append, List.forall_mem_cons] at same
    rw [List.cons_append, search, search, same.1.dedicated?, same.1.projectCounts,
      induction same.2]

/-- Two volumes differ at most in the files of the folders above a folder. -/
def AgreeBelow (folder : Location) (volume other : Volume) : Prop :=
  ∀ inner, ¬ (inner <+: folder ∧ inner ≠ folder) → SameFiles volume other inner

/-- What lies above the first folder that has a configuration has no say. -/
theorem find_congr {volume other : Volume} {start folder : Location} {before after : List Location}
    (visited : start.outward = before ++ folder :: after) (configured : IsConfigured volume folder)
    (agree : AgreeBelow folder volume other) : find other start = find volume start := by
  rw [find, find, visited]
  apply search_congr _ configured
  intro inner member
  apply agree
  -- A folder that has been visited is as long as the one found, or longer.
  rintro ⟨outside, strict⟩
  rcases List.mem_append.mp member with nearer | here
  · have long := ((Location.mem_before_iff visited).mp nearer).2
    exact absurd outside.length_le (Nat.not_le.mpr long)
  · exact strict (List.mem_singleton.mp here)

/-! ## Loading what is found -/

/-- A project file that counts is loaded, and has entries. -/
theorem load_display_of_hasProject {volume : Volume} {folder : Location}
    (project : HasProject volume folder) (working : Location) :
    ∃ entries, entries ≠ [] ∧
      load volume working (Location.display (folder ++ [projectName])) = .ok entries := by
  obtain ⟨file, entries, present, found, filled⟩ := project
  refine ⟨entries, filled, ?_⟩
  have named : (Path.mk 1 (folder ++ [projectName])).name = projectName := by
    rw [Path.name, List.getLast?_concat, Option.getD_some]
  rw [load, Volume.fileAt?_display present working, Volume.ofText_display present]
  dsimp only
  rw [readFile, named, if_pos (by decide)]
  exact (readProject_eq_ok_iff filled).mpr found

/--
Whatever a volume holds and wherever the search starts: it returns, unless a
project file that can be read breaks it off.  If it returns, it has found nothing
exactly if no folder from the start outward has a configuration.  Otherwise the
file that it has found is the one that counts in some folder, and no folder that
is nearer has a configuration.  Then the files in the folders above have no say
in the result, and a project file can be loaded and has entries.
-/
theorem find_isNearest (volume : Volume) (start : Location) :
    ((∃ result, (find volume start).outcome = .ok result) ∨
      ∃ folder fault, folder <+: start ∧ ProjectBreaksOff volume folder fault ∧
        (find volume start).outcome = .error (.fault fault)) ∧
    ∀ result, (find volume start).outcome = .ok result →
      (result = none ↔ ∀ folder, folder <+: start → ¬ IsConfigured volume folder) ∧
      ∀ location, result = some location → ∃ folder, folder <+: start ∧
        IsChoice volume folder location ∧
        (∀ nearer, nearer <+: start → folder.length < nearer.length →
          ¬ IsConfigured volume nearer) ∧
        (∀ other, AgreeBelow folder volume other → find other start = find volume start) ∧
        (location = folder ++ [projectName] → ∀ working, ∃ entries,
          entries ≠ [] ∧ load volume working location.display = .ok entries) := by
  refine ⟨find_returns_or_breaksOff volume start, ?_⟩
  intro result returned
  have found : Finds volume start.outward (find volume start).outcome := finds_search ..
  rw [returned] at found
  cases found with
  | nothing none =>
    simp only [Location.mem_outward] at none
    exact ⟨⟨fun _ => none, fun _ => rfl⟩, nofun⟩
  | @first before after folder location visited unconfigured choice =>
    have inside := Location.isPrefix_of_visited visited
    refine ⟨⟨nofun, fun none => absurd choice.isConfigured (none folder inside)⟩, ?_⟩
    rintro _ ⟨⟩
    refine ⟨folder, inside, choice, ?_, ?_, ?_⟩
    · intro nearer starts long
      exact unconfigured nearer ((Location.mem_before_iff visited).mpr ⟨starts, long⟩)
    · exact fun other agree => find_congr visited choice.isConfigured agree
    · rintro rfl working
      exact load_display_of_hasProject choice.hasProject working

/--
A folder with a malformed project file, inside one whose project file cannot be
read, inside one whose project file has entries, inside a root with a dedicated
file.
-/
def nestedVolume : Volume :=
  let filled := Utf8.encode "[tool.html2jsx]\nindent = 4".toList
  ({} : Volume)
    |>.setContent [".html2jsx.json".toList] []
    |>.setContent ["outer".toList, projectName] filled
    |>.setFile ["outer".toList, "middle".toList, projectName]
      { octets := filled, unreadable := some .permission }
    |>.setContent ["outer".toList, "middle".toList, "inner".toList, projectName]
      (Utf8.encode "[tool".toList)

/-- The innermost folder of the volume. -/
def innermost : Location := ["outer".toList, "middle".toList, "inner".toList]

theorem find_isNearest_nestedVolume :
    (find nestedVolume innermost).outcome.toOption = some (some ["outer".toList, projectName]) ∧
      (∀ other, AgreeBelow ["outer".toList] nestedVolume other →
        find other innermost = find nestedVolume innermost) ∧
      ∃ entries, entries ≠ [] ∧
        load nestedVolume [] (Location.display ["outer".toList, projectName]) = .ok entries := by
  have shown : (find nestedVolume innermost).outcome.toOption =
      some (some ["outer".toList, projectName]) := by decide +kernel
  refine ⟨shown, ?_⟩
  cases returned : (find nestedVolume innermost).outcome with
  | error problem =>
    rw [returned] at shown
    cases shown
  | ok result =>
    rw [returned] at shown
    cases shown
    obtain ⟨folder, -, choice, -, below, loads⟩ :=
      ((find_isNearest nestedVolume innermost).2 _ returned).2 _ rfl
    obtain rfl : ["outer".toList] = folder := choice.dropLast
    exact ⟨below, loads rfl []⟩

end HtmlJsx.Configuration
