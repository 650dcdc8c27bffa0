import CensusNode.Proofs.Disk.Tree
import CensusNode.Proofs.Path

/-!
Walking paths and making the directories along them. Making directories adds directories and
changes nothing else; a path along which they were made can be walked from then on, and making them
again changes nothing.
-/

namespace CensusNode.Disk

/-- Every directory is one later on, and relative paths start where they did. -/
structure Extends (disk later : Disk) : Prop where
  working_directory : later.workingDirectory = disk.workingDirectory
  directories : ∀ location, disk.isDirectory location = true → later.isDirectory location = true

structure Grows (disk later : Disk) : Prop extends Extends disk later where
  names : later.names = disk.names
  contents : later.contents = disk.contents
  held : later.held = disk.held

theorem Extends.refl (disk : Disk) : Extends disk disk := ⟨rfl, fun _ isDirectory => isDirectory⟩

theorem Extends.trans {first second third : Disk} (before : Extends first second)
    (after : Extends second third) : Extends first third where
  working_directory := after.working_directory.trans before.working_directory
  directories location isDirectory :=
    after.directories location (before.directories location isDirectory)

theorem Grows.refl (disk : Disk) : Grows disk disk := ⟨Extends.refl disk, rfl, rfl, rfl⟩

theorem Grows.trans {first second third : Disk} (before : Grows first second)
    (after : Grows second third) : Grows first third where
  toExtends := before.toExtends.trans after.toExtends
  names := after.names.trans before.names
  contents := after.contents.trans before.contents
  held := after.held.trans before.held

theorem grows_add_directory (disk : Disk) (location : Location) :
    Grows disk (disk.addDirectory location) where
  working_directory := rfl
  directories _ isDirectory := (add_directory_is_directory_iff location).mpr (Or.inr isDirectory)
  names := rfl
  contents := rfl
  held := rfl

namespace Grows

variable {disk later : Disk}

theorem file_at (grows : Grows disk later) (location : Location) :
    later.fileAt? location = disk.fileAt? location := by
  rw [fileAt?, grows.names, fileAt?]

theorem content (grows : Grows disk later) (file : FileId) :
    later.content file = disk.content file := by
  rw [Disk.content, grows.contents, Disk.content]

theorem file (grows : Grows disk later) (location : Location) :
    later.file? location = disk.file? location := by
  have contents : later.content = disk.content := funext grows.content
  rw [file?, grows.file_at, contents, file?]

theorem is_held (grows : Grows disk later) (file : FileId) :
    later.isHeld file = disk.isHeld file := by
  rw [isHeld, grows.held, isHeld]

end Grows

variable {disk later : Disk}

def step (location : Location) (segment : String) : Location :=
  if Path.isSelf segment then location
  else if segment = ".." then location.tail
  else segment :: location

def CanStep (disk : Disk) (location : Location) (segment : String) : Prop :=
  Path.isSelf segment = true ∨ segment = ".." ∨
    (Utf8.pathSize segment ≤ nameLimit ∧ disk.isDirectory (segment :: location) = true)

theorem walk_cons_eq_ok_iff {location target : Location} {segment : String} {rest : List String} :
    disk.walk location (segment :: rest) = .ok target ↔
      disk.CanStep location segment ∧ disk.walk (step location segment) rest = .ok target := by
  rw [walk, CanStep, step]
  split
  · rename_i self
    exact ⟨fun walked => ⟨Or.inl self, walked⟩, fun both => both.2⟩
  · rename_i notSelf
    split
    · rename_i back
      exact ⟨fun walked => ⟨Or.inr (Or.inl back), walked⟩, fun both => both.2⟩
    · rename_i forward
      split
      · rename_i long
        constructor
        · intro walked
          cases walked
        · rintro ⟨self | back | ⟨short, -⟩, -⟩
          · exact absurd self notSelf
          · exact absurd back forward
          · omega
      · rename_i short
        split
        · rename_i isDirectory
          exact ⟨fun walked => ⟨Or.inr (Or.inr ⟨by omega, isDirectory⟩), walked⟩,
            fun both => both.2⟩
        · rename_i noDirectory
          constructor
          · intro walked
            split at walked <;> cases walked
          · rintro ⟨self | back | ⟨-, isDirectory⟩, -⟩
            · exact absurd self notSelf
            · exact absurd back forward
            · exact absurd isDirectory noDirectory

theorem CanStep.extends (extended : Extends disk later) {location : Location} {segment : String}
    (canStep : disk.CanStep location segment) : later.CanStep location segment := by
  rcases canStep with self | back | ⟨short, isDirectory⟩
  · exact Or.inl self
  · exact Or.inr (Or.inl back)
  · exact Or.inr (Or.inr ⟨short, extended.directories _ isDirectory⟩)

theorem CanStep.is_directory (wellFormed : disk.WellFormed) {location : Location} {segment : String}
    (start : disk.isDirectory location = true) (canStep : disk.CanStep location segment) :
    disk.isDirectory (step location segment) = true := by
  rw [step]
  split
  · exact start
  · split
    · exact wellFormed.parent location start
    · rename_i notSelf forward
      rcases canStep with self | back | ⟨-, isDirectory⟩
      · exact absurd self notSelf
      · exact absurd back forward
      · exact isDirectory

theorem walk_extends (extended : Extends disk later) {location target : Location}
    {segments : List String} (walked : disk.walk location segments = .ok target) :
    later.walk location segments = .ok target := by
  induction segments generalizing location with
  | nil => exact walked
  | cons segment rest induction =>
      rw [walk_cons_eq_ok_iff] at walked ⊢
      exact ⟨walked.1.extends extended, induction walked.2⟩

theorem walk_append (disk : Disk) (location : Location) (first second : List String) :
    disk.walk location (first ++ second) =
      match disk.walk location first with
      | .ok target => disk.walk target second
      | .error fault => .error fault := by
  induction first generalizing location with
  | nil => rfl
  | cons segment rest induction =>
      rw [List.cons_append, walk, walk]
      split
      · exact induction location
      · split
        · exact induction location.tail
        · split
          · rfl
          · split
            · exact induction (segment :: location)
            · split <;> rfl

/-- Where a path leads depends on its solid pieces only. -/
theorem walk_solid (disk : Disk) (location : Location) (segments : List String) :
    disk.walk location (Path.solid segments) = disk.walk location segments := by
  induction segments generalizing location with
  | nil => rfl
  | cons segment rest induction =>
      cases self : Path.isSelf segment with
      | true =>
          have skipped : Path.solid (segment :: rest) = Path.solid rest := by
            simp [Path.solid, self]
          rw [skipped, walk, if_pos self, induction]
      | false =>
          have kept : Path.solid (segment :: rest) = segment :: Path.solid rest := by
            simp [Path.solid, self]
          rw [kept]
          simp only [walk, induction]

theorem origin_is_directory (wellFormed : disk.WellFormed) (path : String) :
    disk.isDirectory (disk.origin path) = true := by
  rw [origin]
  split
  · rfl
  · exact wellFormed.working_directory

theorem Extends.origin (extended : Extends disk later) (path : String) :
    later.origin path = disk.origin path := by
  rw [Disk.origin, extended.working_directory, Disk.origin]

theorem create_along_of_can_step {location : Location} {segment : String}
    (canStep : disk.CanStep location segment) (created : Bool) (rest : List String) :
    disk.createAlong location created (segment :: rest) =
      disk.createAlong (step location segment) created rest := by
  rw [createAlong, step]
  split
  · rfl
  · split
    · rfl
    · rename_i notSelf forward
      rcases canStep with self | back | ⟨short, isDirectory⟩
      · exact absurd self notSelf
      · exact absurd back forward
      · rw [if_neg (by omega)]
        simp only
        rw [if_pos isDirectory]

theorem create_along_cases (disk : Disk) (location : Location) (created : Bool) (segment : String)
    (rest : List String) :
    disk.CanStep location segment ∨
    (disk.fileAt? (segment :: location) = none ∧ step location segment = segment :: location ∧
      Utf8.pathSize segment ≤ nameLimit ∧ disk.createAlong location created (segment :: rest) =
        (disk.addDirectory (segment :: location)).createAlong (segment :: location) true rest) ∨
    ∃ fault, disk.createAlong location created (segment :: rest) = (.error fault, disk) := by
  by_cases self : Path.isSelf segment = true
  · exact Or.inl (Or.inl self)
  · by_cases back : segment = ".."
    · exact Or.inl (Or.inr (Or.inl back))
    · rw [createAlong, if_neg self, if_neg back]
      split
      · exact Or.inr (Or.inr ⟨_, rfl⟩)
      · rename_i short
        simp only
        by_cases isDirectory : disk.isDirectory (segment :: location) = true
        · exact Or.inl (Or.inr (Or.inr ⟨by omega, isDirectory⟩))
        · rw [if_neg isDirectory]
          split
          · split <;> exact Or.inr (Or.inr ⟨_, rfl⟩)
          · rename_i noFile
            have stepped : step location segment = segment :: location := by
              rw [step, if_neg self, if_neg back]
            exact Or.inr (Or.inl ⟨by simpa using noFile, stepped, by omega, rfl⟩)

theorem create_along_grows (disk : Disk) (location : Location) (created : Bool)
    (segments : List String) : Grows disk (disk.createAlong location created segments).2 := by
  induction segments generalizing disk location created with
  | nil => exact Grows.refl disk
  | cons segment rest induction =>
      rcases disk.create_along_cases location created segment rest with
        canStep | ⟨-, -, -, made⟩ | ⟨fault, failed⟩
      · rw [create_along_of_can_step canStep]
        exact induction disk _ created
      · rw [made]
        exact (grows_add_directory disk _).trans (induction _ _ true)
      · rw [failed]
        exact Grows.refl disk

theorem create_along_well_formed (wellFormed : disk.WellFormed) {location : Location}
    (start : disk.isDirectory location = true) (created : Bool) (segments : List String) :
    (disk.createAlong location created segments).2.WellFormed := by
  induction segments generalizing disk location created with
  | nil => exact wellFormed
  | cons segment rest induction =>
      rcases disk.create_along_cases location created segment rest with
        canStep | ⟨free, -, -, made⟩ | ⟨fault, failed⟩
      · rw [create_along_of_can_step canStep]
        exact induction wellFormed (canStep.is_directory wellFormed start) created
      · have inside : disk.isDirectory (segment :: location).tail = true := start
        rw [made]
        exact induction (wellFormed.add_directory inside free)
          ((add_directory_is_directory_iff _).mpr (Or.inl rfl)) true
      · rw [failed]
        exact wellFormed

def trail (location : Location) : List String → List Location
  | [] => []
  | segment :: rest => step location segment :: trail (step location segment) rest

theorem create_along_directories {location : Location} {created : Bool} {segments : List String}
    {place : Location}
    (isDirectory : (disk.createAlong location created segments).2.isDirectory place = true) :
    disk.isDirectory place = true ∨ place ∈ trail location segments := by
  induction segments generalizing disk location created with
  | nil => exact Or.inl isDirectory
  | cons segment rest induction =>
      rw [trail]
      rcases disk.create_along_cases location created segment rest with
        canStep | ⟨-, stepped, -, made⟩ | ⟨fault, failed⟩
      · rw [create_along_of_can_step canStep] at isDirectory
        rcases induction isDirectory with before | later
        · exact Or.inl before
        · exact Or.inr (List.mem_cons_of_mem _ later)
      · rw [made] at isDirectory
        rcases induction isDirectory with added | later
        · rw [add_directory_is_directory_iff] at added
          rcases added with here | before
          · rw [here, stepped]
            exact Or.inr List.mem_cons_self
          · exact Or.inl before
        · rw [stepped]
          exact Or.inr (List.mem_cons_of_mem _ later)
      · rw [failed] at isDirectory
        exact Or.inl isDirectory

/-- Names that can be walked are passed over. -/
theorem create_along_of_walk {location target : Location} {first : List String}
    (walked : disk.walk location first = .ok target) (created : Bool) (second : List String) :
    disk.createAlong location created (first ++ second) =
      disk.createAlong target created second := by
  induction first generalizing location with
  | nil =>
      rw [← Except.ok.inj walked]
      rfl
  | cons segment rest induction =>
      rw [walk_cons_eq_ok_iff] at walked
      rw [List.cons_append, create_along_of_can_step walked.1, induction walked.2]

theorem create_along_again {location target : Location} {segments : List String}
    (walked : disk.walk location segments = .ok target) (created : Bool) :
    disk.createAlong location created segments = (.ok (), disk) := by
  have passed := create_along_of_walk walked created []
  rwa [List.append_nil] at passed

/-- A path along which all directories were made can be walked. -/
theorem walk_of_create_along {location : Location} {created : Bool} {segments : List String}
    (made : disk.createAlong location created segments = (.ok (), later)) :
    ∃ target, later.walk location segments = .ok target := by
  induction segments generalizing disk location created with
  | nil => exact ⟨location, rfl⟩
  | cons segment rest induction =>
      have grows := create_along_grows disk location created (segment :: rest)
      rw [made] at grows
      rcases disk.create_along_cases location created segment rest with
        canStep | ⟨-, stepped, short, added⟩ | ⟨fault, failed⟩
      · rw [create_along_of_can_step canStep] at made
        obtain ⟨target, walked⟩ := induction made
        exact ⟨target, walk_cons_eq_ok_iff.mpr ⟨canStep.extends grows.toExtends, walked⟩⟩
      · rw [added] at made
        have after := create_along_grows (disk.addDirectory (segment :: location))
          (segment :: location) true rest
        rw [made] at after
        have isDirectory : later.isDirectory (segment :: location) = true :=
          after.directories _ ((add_directory_is_directory_iff _).mpr (Or.inl rfl))
        obtain ⟨target, walked⟩ := induction made
        refine ⟨target, walk_cons_eq_ok_iff.mpr ⟨Or.inr (Or.inr ⟨short, isDirectory⟩), ?_⟩⟩
        rw [stepped]
        exact walked
      · rw [failed] at made
        cases made

def Prepared (disk : Disk) : Option String → Prop
  | none => True
  | some path =>
      checkPath path = .ok () ∧
        ∃ target, disk.walk (disk.origin path) (Path.segments path) = .ok target

theorem Prepared.prepare {directory : Option String} (prepared : disk.Prepared directory) :
    disk.prepare directory = (none, disk) := by
  cases directory with
  | none => rfl
  | some path =>
      obtain ⟨checked, target, walked⟩ := prepared
      rw [Disk.prepare, createDirectories, checked]
      simp only
      rw [create_along_again walked]

theorem Prepared.extends (extended : Extends disk later) {directory : Option String}
    (prepared : disk.Prepared directory) : later.Prepared directory := by
  cases directory with
  | none => trivial
  | some path =>
      obtain ⟨checked, target, walked⟩ := prepared
      refine ⟨checked, target, ?_⟩
      rw [extended.origin]
      exact walk_extends extended walked

/-- Making the directories of a path only adds directories, whether it goes well or not. -/
theorem prepare_grows (disk : Disk) (directory : Option String) :
    Grows disk (disk.prepare directory).2 := by
  cases directory with
  | none => exact Grows.refl disk
  | some path =>
      rw [prepare, createDirectories]
      cases checkPath path with
      | error fault => exact Grows.refl disk
      | ok checked =>
          have grows := create_along_grows disk (disk.origin path) false (Path.segments path)
          simp only
          split
          · rename_i made
            rwa [made] at grows
          · rename_i failed
            rwa [failed] at grows

theorem prepare_well_formed (wellFormed : disk.WellFormed) (directory : Option String) :
    (disk.prepare directory).2.WellFormed := by
  cases directory with
  | none => exact wellFormed
  | some path =>
      rw [prepare, createDirectories]
      cases checkPath path with
      | error fault => exact wellFormed
      | ok checked =>
          have kept := create_along_well_formed wellFormed (origin_is_directory wellFormed path)
            false (Path.segments path)
          simp only
          split
          · rename_i made
            rwa [made] at kept
          · rename_i failed
            rwa [failed] at kept

theorem prepared_of_prepare {directory : Option String}
    (made : disk.prepare directory = (none, later)) : later.Prepared directory := by
  cases directory with
  | none => trivial
  | some path =>
      have grows := disk.prepare_grows (some path)
      rw [made] at grows
      rw [prepare, createDirectories] at made
      cases checked : checkPath path with
      | error fault =>
          rw [checked] at made
          cases made
      | ok _ =>
          rw [checked] at made
          simp only at made
          split at made
          · rename_i along
            obtain ⟨target, walked⟩ := walk_of_create_along along
            refine ⟨checked, target, ?_⟩
            rw [grows.toExtends.origin, ← (Prod.mk.inj made).2]
            exact walked
          · cases made

theorem locate_eq_ok_iff {path : String} {location : Location} :
    disk.locate path = .ok location ↔
      checkPath path = .ok () ∧
      ∃ directory, disk.walk (disk.origin path) (Path.segments path).dropLast = .ok directory ∧
        ¬(Path.isSelf ((Path.segments path).getLast?.getD "") = true ∨
          (Path.segments path).getLast?.getD "" = "..") ∧
        Utf8.pathSize ((Path.segments path).getLast?.getD "") ≤ nameLimit ∧
        location = (Path.segments path).getLast?.getD "" :: directory := by
  simp only [locate, bind, Except.bind]
  cases checkPath path with
  | error fault => simp
  | ok checked =>
      simp only [true_and]
      cases disk.walk (disk.origin path) (Path.segments path).dropLast with
      | error fault => simp
      | ok directory =>
          simp only [Bool.or_eq_true, decide_eq_true_eq]
          split
          · rename_i special
            constructor
            · intro same
              cases same
            · rintro ⟨_, -, notSpecial, -⟩
              exact absurd special notSpecial
          · rename_i notSpecial
            split
            · rename_i long
              constructor
              · intro same
                cases same
              · rintro ⟨_, -, -, short, -⟩
                omega
            · rename_i short
              constructor
              · intro same
                exact ⟨directory, rfl, notSpecial, by omega, (Except.ok.inj same).symm⟩
              · rintro ⟨other, same, -, -, isLocation⟩
                rw [isLocation, Except.ok.inj same]

theorem locate_extends (extended : Extends disk later) {path : String} {location : Location}
    (located : disk.locate path = .ok location) : later.locate path = .ok location := by
  rw [locate_eq_ok_iff] at located ⊢
  obtain ⟨checked, directory, walked, rest⟩ := located
  refine ⟨checked, directory, ?_, rest⟩
  rw [extended.origin]
  exact walk_extends extended walked

end CensusNode.Disk
