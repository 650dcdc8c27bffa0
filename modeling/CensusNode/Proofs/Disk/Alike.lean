import CensusNode.Proofs.Disk.Walk

/-!
Disks that look alike. They have the same directories and the same locations that lead to files, and
the contents there agree but for some hidden locations. Which numbers the files have and who holds
them does not show. Alike disks answer the same, and stay alike under the same changes.
-/

namespace CensusNode.Disk

/-- The disks show the same outside the hidden locations, and files in the same places there. -/
structure Alike (hidden : List Location) (left right : Disk) : Prop where
  working_directory : left.workingDirectory = right.workingDirectory
  directories : ∀ location, left.isDirectory location = right.isDirectory location
  occupied : ∀ location, (left.fileAt? location).isSome = (right.fileAt? location).isSome
  files : ∀ location, location ∉ hidden → left.file? location = right.file? location

namespace Alike

variable {hidden : List Location} {left right : Disk}

theorem refl (hidden : List Location) (disk : Disk) : Alike hidden disk disk :=
  ⟨rfl, fun _ => rfl, fun _ => rfl, fun _ _ => rfl⟩

theorem symm (alike : Alike hidden left right) : Alike hidden right left where
  working_directory := alike.working_directory.symm
  directories location := (alike.directories location).symm
  occupied location := (alike.occupied location).symm
  files location shown := (alike.files location shown).symm

theorem trans {third : Disk} (alike : Alike hidden left right) (next : Alike hidden right third) :
    Alike hidden left third where
  working_directory := alike.working_directory.trans next.working_directory
  directories location := (alike.directories location).trans (next.directories location)
  occupied location := (alike.occupied location).trans (next.occupied location)
  files location shown := (alike.files location shown).trans (next.files location shown)

theorem origin (alike : Alike hidden left right) (path : String) :
    left.origin path = right.origin path := by
  rw [Disk.origin, alike.working_directory, Disk.origin]

theorem walk (alike : Alike hidden left right) (location : Location) (segments : List String) :
    left.walk location segments = right.walk location segments := by
  induction segments generalizing location with
  | nil => rfl
  | cons segment rest induction =>
      simp only [Disk.walk, alike.directories, alike.occupied, induction]

theorem locate (alike : Alike hidden left right) (path : String) :
    left.locate path = right.locate path := by
  simp only [Disk.locate, alike.origin, alike.walk]

theorem add_directory (alike : Alike hidden left right) (added : Location) :
    Alike hidden (left.addDirectory added) (right.addDirectory added) where
  working_directory := alike.working_directory
  directories location := by
    rw [Bool.eq_iff_iff, add_directory_is_directory_iff, add_directory_is_directory_iff,
      alike.directories]
  occupied := alike.occupied
  files := alike.files

theorem create_along (alike : Alike hidden left right) (location : Location) (created : Bool)
    (segments : List String) :
    (left.createAlong location created segments).1 =
        (right.createAlong location created segments).1 ∧
      Alike hidden (left.createAlong location created segments).2
        (right.createAlong location created segments).2 := by
  induction segments generalizing left right location created with
  | nil => exact ⟨rfl, alike⟩
  | cons segment rest induction =>
      simp only [createAlong, alike.directories, alike.occupied]
      split
      · exact induction alike location created
      · split
        · exact induction alike location.tail created
        · split
          · exact ⟨rfl, alike⟩
          · split
            · exact induction alike (segment :: location) created
            · split
              · split <;> exact ⟨rfl, alike⟩
              · exact induction (alike.add_directory (segment :: location)) (segment :: location)
                  true

theorem prepare (alike : Alike hidden left right) (directory : Option String) :
    (left.prepare directory).1 = (right.prepare directory).1 ∧
      Alike hidden (left.prepare directory).2 (right.prepare directory).2 := by
  cases directory with
  | none => exact ⟨rfl, alike⟩
  | some path =>
      simp only [Disk.prepare, createDirectories]
      cases checkPath path with
      | error fault => exact ⟨rfl, alike⟩
      | ok checked =>
          have along := alike.create_along (right.origin path) false (Path.segments path)
          rw [alike.origin]
          simp only
          revert along
          cases left.createAlong (right.origin path) false (Path.segments path) with
          | mk answer later =>
              cases right.createAlong (right.origin path) false (Path.segments path) with
              | mk other another =>
                  rintro ⟨same, alike⟩
                  simp only at same
                  rw [same]
                  cases other with
                  | ok _ => exact ⟨rfl, alike⟩
                  | error fault => exact ⟨rfl, alike⟩

theorem set_content (alike : Alike hidden left right) (leftFormed : left.WellFormed)
    (rightFormed : right.WellFormed) {location : Location} {file other : FileId}
    (named : left.fileAt? location = some file) (otherNamed : right.fileAt? location = some other)
    (content : FileContent) :
    Alike hidden (left.setContent file content) (right.setContent other content) where
  working_directory := alike.working_directory
  directories := alike.directories
  occupied := alike.occupied
  files place shown := by
    by_cases same : place = location
    · rw [same, file_set_content_self leftFormed named,
        file_set_content_self rightFormed otherNamed]
    · rw [file_set_content_of_ne leftFormed named same,
        file_set_content_of_ne rightFormed otherNamed same, alike.files place shown]

end Alike

end CensusNode.Disk
