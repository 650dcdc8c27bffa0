import CensusNode.Proofs.Disk.Alike

/-!
Changes that stay within a few files. What happens to the files at some places leaves all others
alone, and the directories and the owners of store files too.
-/

namespace CensusNode.Disk

/-- Nothing but the files at some places has changed, and maybe the owners of store files. -/
structure Within (places : List Location) (disk later : Disk) : Prop where
  working_directory : later.workingDirectory = disk.workingDirectory
  directories : later.directories = disk.directories
  names : ∀ location, location ∉ places → later.fileAt? location = disk.fileAt? location
  files : ∀ location, location ∉ places → later.file? location = disk.file? location

structure Keeps (places : List Location) (disk later : Disk) : Prop extends
    Within places disk later where
  held : later.held = disk.held

def owned (disk : Disk) (files : List FileId) : Disk := { disk with held := files }

variable {disk later : Disk} {places : List Location} {location : Location} {file : FileId}
  {content : FileContent}

namespace Within

theorem refl (places : List Location) (disk : Disk) : Within places disk disk :=
  ⟨rfl, rfl, fun _ _ => rfl, fun _ _ => rfl⟩

theorem trans {last : Disk} (first : Within places disk later) (second : Within places later last) :
    Within places disk last where
  working_directory := second.working_directory.trans first.working_directory
  directories := second.directories.trans first.directories
  names location outside := (second.names location outside).trans (first.names location outside)
  files location outside := (second.files location outside).trans (first.files location outside)

theorem mono {more : List Location} (within : Within places disk later) (subset : places ⊆ more) :
    Within more disk later where
  working_directory := within.working_directory
  directories := within.directories
  names location outside := within.names location fun inside => outside (subset inside)
  files location outside := within.files location fun inside => outside (subset inside)

theorem is_directory (within : Within places disk later) (location : Location) :
    later.isDirectory location = disk.isDirectory location := by
  rw [isDirectory, within.directories, isDirectory]

theorem extended (within : Within places disk later) : Extends disk later where
  working_directory := within.working_directory
  directories location isDirectory := by rw [within.is_directory, isDirectory]

/-- Who owns a store file does not count as a change. -/
theorem owned (within : Within places disk later) (files : List FileId) :
    Within places disk (later.owned files) :=
  ⟨within.working_directory, within.directories, within.names, within.files⟩

/-- Disks that differ at hidden places only look alike when the files are still there. -/
theorem alike (within : Within places disk later)
    (occupied : ∀ location ∈ places,
      (disk.fileAt? location).isSome = (later.fileAt? location).isSome) :
    Alike places disk later where
  working_directory := within.working_directory.symm
  directories location := (within.is_directory location).symm
  occupied location := by
    by_cases inside : location ∈ places
    · exact occupied location inside
    · rw [within.names location inside]
  files location outside := (within.files location outside).symm

theorem alike_of_nil (within : Within [] disk later) (hidden : List Location) :
    Alike hidden disk later where
  working_directory := within.working_directory.symm
  directories location := (within.is_directory location).symm
  occupied location := by rw [within.names location List.not_mem_nil]
  files location _ := (within.files location List.not_mem_nil).symm

end Within

namespace Keeps

theorem refl (places : List Location) (disk : Disk) : Keeps places disk disk :=
  ⟨Within.refl places disk, rfl⟩

theorem trans {last : Disk} (first : Keeps places disk later) (second : Keeps places later last) :
    Keeps places disk last :=
  ⟨first.toWithin.trans second.toWithin, second.held.trans first.held⟩

theorem mono {more : List Location} (keeps : Keeps places disk later) (subset : places ⊆ more) :
    Keeps more disk later :=
  ⟨keeps.toWithin.mono subset, keeps.held⟩

theorem is_held (keeps : Keeps places disk later) (file : FileId) :
    later.isHeld file = disk.isHeld file := by
  rw [isHeld, keeps.held, isHeld]

end Keeps

theorem WellFormed.owned (wellFormed : disk.WellFormed) (files : List FileId) :
    (disk.owned files).WellFormed where
  working_directory := wellFormed.working_directory
  parent := wellFormed.parent
  no_file := wellFormed.no_file
  in_range := wellFormed.in_range
  single := wellFormed.single

theorem extends_set_content (disk : Disk) (file : FileId) (content : FileContent) :
    disk.Extends (disk.setContent file content) := ⟨rfl, fun _ isDirectory => isDirectory⟩

theorem keeps_set_content (wellFormed : disk.WellFormed)
    (named : disk.fileAt? location = some file) (inside : location ∈ places) :
    Keeps places disk (disk.setContent file content) where
  working_directory := rfl
  directories := rfl
  held := rfl
  names _ _ := rfl
  files other outside := by
    have different : other ≠ location := by
      intro same
      rw [same] at outside
      exact outside inside
    exact file_set_content_of_ne wellFormed named different

theorem keeps_create (wellFormed : disk.WellFormed) (inside : location ∈ places) :
    Keeps places disk (disk.create location content).2 where
  working_directory := rfl
  directories := rfl
  held := rfl
  names _ outside := file_at_create_of_ne fun same => outside (same ▸ inside)
  files _ outside := file_create_of_ne wellFormed fun same => outside (same ▸ inside)

theorem extends_unlink (disk : Disk) (location : Location) :
    disk.Extends (disk.unlink location) := ⟨rfl, fun _ isDirectory => isDirectory⟩

theorem keeps_unlink (disk : Disk) (inside : location ∈ places) :
    Keeps places disk (disk.unlink location) where
  working_directory := rfl
  directories := rfl
  held := rfl
  names _ outside := file_at_unlink_of_ne fun same => outside (same ▸ inside)
  files _ outside := file_unlink_of_ne fun same => outside (same ▸ inside)

theorem release_all (disk : Disk) (files : List FileId) :
    files.foldl release disk = disk.owned (disk.held.filter fun file => file ∉ files) := by
  induction files generalizing disk with
  | nil =>
      have all : (disk.held.filter fun file => file ∉ ([] : List FileId)) = disk.held := by simp
      rw [all]
      rfl
  | cons first rest induction =>
      have both : (disk.release first).held.filter (fun file => file ∉ rest) =
          disk.held.filter fun file => file ∉ first :: rest := by
        rw [release, List.filter_filter]
        apply List.filter_congr
        intro file _
        simp [Bool.and_comm]
      rw [List.foldl_cons, induction, both]
      rfl

theorem file_for_of_named (named : disk.fileAt? location = some file) :
    disk.fileFor location = (file, disk) := by
  rw [fileFor, named]

theorem held_file_for (disk : Disk) (location : Location) :
    (disk.fileFor location).2.held = disk.held := by
  cases named : disk.fileAt? location with
  | some file => rw [file_for_of_named named]
  | none =>
      rw [fileFor, named]
      rfl

/-- A file that is made is new to the disk. -/
theorem file_for_of_free (free : disk.fileAt? location = none) :
    disk.fileFor location =
      (disk.contents.length, (disk.create location FileContent.empty).2) := by
  rw [fileFor, free]
  rfl

/-- A file that is not there counts as one without bytes, so that making it changes no contents. -/
theorem content_file_for (disk : Disk) (location : Location) (file : FileId) :
    (disk.fileFor location).2.content file = disk.content file := by
  cases named : disk.fileAt? location with
  | some other => rw [file_for_of_named named]
  | none =>
      rw [file_for_of_free named]
      simp only [create, createUnnamed, content, List.getD_eq_getElem?_getD]
      rcases Nat.lt_trichotomy file disk.contents.length with before | here | beyond
      · rw [List.getElem?_append_left before]
      · rw [here, List.getElem?_concat_length, List.getElem?_eq_none (Nat.le_refl _)]
        rfl
      · have longer : (disk.contents ++ [FileContent.empty]).length ≤ file := by
          rw [List.length_append, List.length_singleton]
          exact beyond
        rw [List.getElem?_eq_none longer, List.getElem?_eq_none (Nat.le_of_lt beyond)]

theorem length_file_for (disk : Disk) (location : Location) :
    disk.contents.length ≤ (disk.fileFor location).2.contents.length := by
  cases named : disk.fileAt? location with
  | some file => simp only [file_for_of_named named, Nat.le_refl]
  | none =>
      rw [file_for_of_free named]
      simp [create, createUnnamed]

theorem file_at_file_for (disk : Disk) (location : Location) :
    (disk.fileFor location).2.fileAt? location = some (disk.fileFor location).1 := by
  cases named : disk.fileAt? location with
  | some file => rw [file_for_of_named named, named]
  | none =>
      rw [fileFor, named]
      exact file_at_create_self

theorem file_file_for_of_free (free : disk.fileAt? location = none) :
    (disk.fileFor location).2.file? location = some FileContent.empty := by
  rw [fileFor, free]
  exact file_create_self

theorem keeps_file_for (wellFormed : disk.WellFormed) (inside : location ∈ places) :
    Keeps places disk (disk.fileFor location).2 := by
  cases named : disk.fileAt? location with
  | some file =>
      rw [file_for_of_named named]
      exact Keeps.refl places disk
  | none =>
      rw [fileFor, named]
      exact keeps_create wellFormed inside

theorem WellFormed.file_for (wellFormed : disk.WellFormed)
    (free : disk.isDirectory location = false) : (disk.fileFor location).2.WellFormed := by
  cases named : disk.fileAt? location with
  | some file =>
      rw [file_for_of_named named]
      exact wellFormed
  | none =>
      rw [fileFor, named]
      exact wellFormed.create free

end CensusNode.Disk
