import HtmlJsx.Files.Volume
import HtmlJsx.Proofs.Outcome
import HtmlJsx.Proofs.Separation

/-!
# Locations and the paths that show them

The folders around a location are its prefixes, and going outward visits them
from the longest to the shortest.  A location is shown as a path from the root,
and the path leads back to it if the names on the way are names of files and
folders.  In a volume they always are, and there are folders all the way, so
the path that shows a file leads to it, from whatever folder.
-/

namespace HtmlJsx

namespace Location

/-! ## Going outward -/

theorem mem_shrink {names : List Text} {folder : Location} :
    folder ∈ outward.shrink names ↔ folder.reverse <:+ names := by
  induction names with
  | nil => simp [outward.shrink]
  | cons name rest induction =>
    rw [outward.shrink, List.mem_cons, induction, List.suffix_cons_iff, List.reverse_eq_iff]

/-- The folders that are visited on the way outward are the prefixes of a location. -/
theorem mem_outward {location folder : Location} :
    folder ∈ location.outward ↔ folder <+: location := by
  rw [outward, mem_shrink, List.reverse_suffix]

/-- Each folder is visited before those around it. -/
theorem pairwise_outward (location : Location) :
    location.outward.Pairwise fun inner outer => outer.length < inner.length := by
  rw [outward]
  generalize location.reverse = names
  induction names with
  | nil => simp [outward.shrink]
  | cons name rest induction =>
    rw [outward.shrink, List.pairwise_cons]
    refine ⟨?_, induction⟩
    intro outer member
    have short := (mem_shrink.mp member).length_le
    rw [List.length_reverse] at short
    rw [List.length_reverse, List.length_cons]
    omega

theorem isPrefix_of_visited {location folder : Location} {before after : List Location}
    (visited : location.outward = before ++ folder :: after) : folder <+: location := by
  rw [← mem_outward, visited]
  exact List.mem_append_cons_self

/-- What is visited before a folder are the longer prefixes. -/
theorem mem_before_iff {location folder : Location} {before after : List Location}
    (visited : location.outward = before ++ folder :: after) {nearer : Location} :
    nearer ∈ before ↔ nearer <+: location ∧ folder.length < nearer.length := by
  have ordered := pairwise_outward location
  rw [visited, List.pairwise_append, List.pairwise_cons] at ordered
  obtain ⟨-, ⟨shorter, -⟩, longer⟩ := ordered
  rw [← mem_outward, visited]
  constructor
  · intro member
    exact ⟨List.mem_append_left _ member, longer nearer member folder List.mem_cons_self⟩
  · rintro ⟨member, long⟩
    rcases List.mem_append.mp member with early | late
    · exact early
    · rcases List.mem_cons.mp late with rfl | later
      · exact absurd long (Nat.lt_irrefl _)
      · exact absurd long (Nat.lt_asymm (shorter nearer later))

end Location

/-! ## Names -/

section Names

variable {name : Text} (proper : isFileName name = true)

include proper

theorem ne_nil_of_isFileName : name ≠ [] := by
  rintro rfl
  exact absurd proper (by decide)

theorem ne_here_of_isFileName : name ≠ ['.'] := by
  rintro rfl
  exact absurd proper (by decide)

theorem ne_outward_of_isFileName : name ≠ ['.', '.'] := by
  rintro rfl
  exact absurd proper (by decide)

theorem slash_not_mem_of_isFileName : '/' ∉ name := by
  simp only [isFileName, Bool.and_eq_true, Bool.not_eq_true', List.contains_eq_mem,
    decide_eq_false_iff_not] at proper
  exact proper.1.2

end Names

/-- The path that shows a location leads there. -/
theorem Path.ofText_display {location : Location} (some : location ≠ [])
    (proper : ∀ name ∈ location, isFileName name = true) :
    Path.ofText location.display = ⟨1, location⟩ := by
  have slashes : leadingSlashes location.display = 1 := by
    obtain ⟨first, others, rfl⟩ := List.exists_cons_of_ne_nil some
    have named := proper first List.mem_cons_self
    obtain ⟨c, more, rfl⟩ := List.exists_cons_of_ne_nil (ne_nil_of_isFileName named)
    have other : c ≠ '/' := by
      rintro rfl
      exact slash_not_mem_of_isFileName named List.mem_cons_self
    obtain ⟨rest, joined⟩ : ∃ rest, Text.join ['/'] ((c :: more) :: others) = c :: rest := by
      cases others with
      | nil => exact ⟨more, rfl⟩
      | cons next last => exact ⟨_, rfl⟩
    simp [leadingSlashes, Location.display, joined, other]
  have names : Text.pieces '/' location.display = [] :: location := by
    rw [Location.display, Text.pieces, if_pos rfl,
      Text.pieces_join some fun name member => slash_not_mem_of_isFileName (proper name member)]
  rw [Path.ofText, slashes, names]
  congr 1
  rw [List.filter_cons_of_neg (by simp)]
  apply List.filter_eq_self.mpr
  intro name member
  simp [ne_nil_of_isFileName (proper name member), ne_here_of_isFileName (proper name member)]

/-! ## Trees -/

namespace Entry

/-- What lies at a location is found by going part of the way first. -/
theorem at?_append (outer rest : Location) (entry : Entry) :
    at? (outer ++ rest) entry = (at? outer entry).bind (at? rest) := by
  induction outer generalizing entry with
  | nil => rfl
  | cons name more induction =>
    cases entry with
    | file leaf => rfl
    | folder entries =>
      rw [List.cons_append, at?, at?, Option.bind_assoc]
      exact congrArg _ (funext induction)

theorem isFileName_of_named? {entries : List (FileName × Entry)} {name : Text} {found : Entry}
    (present : named? entries name = some found) : isFileName name = true := by
  obtain ⟨entry, among, -⟩ := Option.map_eq_some_iff.mp present
  have same := List.find?_some among
  rw [beq_iff_eq] at same
  rw [← same]
  exact entry.1.proper

/-- The way to what lies in an entry consists of names of files and folders. -/
theorem isFileName_of_at? {location : Location} {entry found : Entry}
    (present : at? location entry = some found) : ∀ name ∈ location, isFileName name = true := by
  induction location generalizing entry with
  | nil => exact List.forall_mem_nil _
  | cons name rest induction =>
    cases entry with
    | file leaf => cases present
    | folder entries =>
      obtain ⟨inner, named, beyond⟩ := Option.bind_eq_some_iff.mp present
      exact List.forall_mem_cons.mpr ⟨isFileName_of_named? named, induction beyond⟩

end Entry

/-! ## Files in a volume -/

namespace Volume

theorem file?_eq_some_iff {volume : Volume} {location : Location} {file : File} :
    volume.file? location = some file ↔ volume.at? location = some (.file file) := by
  rw [file?]
  split
  · next leaf found =>
    rw [found]
    simp
  · next other =>
    constructor
    · rintro ⟨⟩
    · exact fun found => absurd found (other file)

variable {volume : Volume} {location : Location} {file : File}

theorem ne_nil_of_file? (present : volume.file? location = some file) : location ≠ [] := by
  rintro rfl
  cases present

/-- Every location around a file is a folder. -/
theorem isFolder_of_file? (present : volume.file? location = some file) {outer : Location}
    (around : outer <+: location) (short : outer ≠ location) : volume.isFolder outer = true := by
  obtain ⟨rest, rfl⟩ := around
  rw [file?_eq_some_iff, at?, Entry.at?_append] at present
  obtain ⟨inner, found, beyond⟩ := Option.bind_eq_some_iff.mp present
  cases inner with
  | folder entries => rw [isFolder, at?, found]
  | file leaf =>
    -- Nothing lies beyond a file, so the way ends here.
    cases rest with
    | nil => exact absurd (List.append_nil outer).symm short
    | cons name more => cases beyond

/-- Names lead to a location if there are folders on the way. -/
theorem follow_eq_ok {here : Location} {names : List Text}
    (proper : ∀ name ∈ names, isFileName name = true)
    (folders : ∀ outer, outer <+: names → outer ≠ names → volume.isFolder (here ++ outer) = true) :
    volume.follow here names = .ok (here ++ names) := by
  induction names generalizing here with
  | nil => rw [follow, List.append_nil]
  | cons name rest induction =>
    rw [List.forall_mem_cons] at proper
    have onward : volume.isFolder here = true := by
      have start := folders [] List.nil_prefix (List.cons_ne_nil _ _).symm
      rwa [List.append_nil] at start
    rw [follow, if_pos onward, beq_false_of_ne (ne_outward_of_isFileName proper.1),
      if_neg Bool.false_ne_true, induction proper.2, List.append_assoc, List.singleton_append]
    intro outer starts short
    rw [List.append_assoc, List.singleton_append]
    apply folders
    · exact List.cons_prefix_cons.mpr ⟨rfl, starts⟩
    · exact fun same => short (List.cons.inj same).2

theorem ofText_display (present : volume.file? location = some file) :
    Path.ofText location.display = ⟨1, location⟩ :=
  Path.ofText_display (ne_nil_of_file? present)
    (Entry.isFileName_of_at? (file?_eq_some_iff.mp present))

/-- The path that shows a file leads to it, from whatever folder. -/
theorem fileAt?_display (present : volume.file? location = some file) (working : Location) :
    volume.fileAt? working (Path.ofText location.display) = some file := by
  have located : volume.follow [] location = .ok location :=
    follow_eq_ok (Entry.isFileName_of_at? (file?_eq_some_iff.mp present))
      fun _ around short => isFolder_of_file? present around short
  rw [ofText_display present, fileAt?, locate, Path.start, if_neg Nat.one_ne_zero, located]
  exact present

/-- A path can be read if it leads to a file that can be read. -/
theorem read_eq_ok_iff {folder : Location} {path : Path} {octets : List UInt8} :
    volume.read folder path = .ok octets ↔
      ∃ file, volume.fileAt? folder path = some file ∧ file.read = .ok octets := by
  rw [read, Outcome.bind_eq_ok_iff, fileAt?]
  cases volume.locate folder path with
  | error error => simp
  | ok location =>
    simp only [Except.ok.injEq, exists_eq_left']
    cases volume.file? location with
    | some file => simp
    | none =>
      simp only [reduceCtorEq, false_and, exists_false, iff_false]
      split
      · rintro ⟨⟩
      · rintro ⟨⟩

end Volume

end HtmlJsx
