import CensusNode.Disk.Basic

/-!
Well-formed directory trees, and what the basic changes do to one. A change of a file is a change
at the one location that leads to it, so that a tree can be looked at through its directories and
through the contents that its locations lead to.
-/

namespace CensusNode.Disk

/-- A directory tree as a disk holds it: directories lie in directories, nothing is a directory and
a file at once, and no two names lead to one file. -/
structure WellFormed (disk : Disk) : Prop where
  working_directory : disk.isDirectory disk.workingDirectory = true
  parent : ∀ location, disk.isDirectory location = true → disk.isDirectory location.tail = true
  no_file : ∀ location, disk.isDirectory location = true → disk.fileAt? location = none
  in_range : ∀ location file, disk.fileAt? location = some file → file < disk.contents.length
  single : ∀ location other file, disk.fileAt? location = some file →
    disk.fileAt? other = some file → location = other

def addDirectory (disk : Disk) (location : Location) : Disk :=
  { disk with directories := location :: disk.directories }

variable {disk : Disk} {location other : Location} {file : FileId} {content : FileContent}

theorem file_eq_none_iff : disk.file? location = none ↔ disk.fileAt? location = none := by
  rw [file?, Option.map_eq_none_iff]

theorem file_of_named (named : disk.fileAt? location = some file) :
    disk.file? location = some (disk.content file) := by
  rw [file?, named, Option.map_some]

theorem WellFormed.not_directory (wellFormed : disk.WellFormed)
    (named : disk.fileAt? location = some file) : disk.isDirectory location = false := by
  cases isDirectory : disk.isDirectory location with
  | false => rfl
  | true =>
      rw [wellFormed.no_file location isDirectory] at named
      cases named

def nothing : Disk := ⟨[], [], [], [], []⟩

theorem nothing_well_formed : nothing.WellFormed where
  working_directory := rfl
  parent location isDirectory := by
    have isRoot : location = [] := by simpa [Disk.isDirectory, nothing] using isDirectory
    rw [isRoot]
    rfl
  no_file _ _ := rfl
  in_range _ _ named := by cases named
  single _ _ _ named := by cases named

theorem add_directory_is_directory_iff (added : Location) :
    (disk.addDirectory added).isDirectory location = true ↔
      location = added ∨ disk.isDirectory location = true := by
  simp only [addDirectory, isDirectory, List.contains_cons, Bool.or_eq_true, beq_iff_eq,
    decide_eq_true_eq]
  constructor
  · rintro (isRoot | here | there)
    · exact Or.inr (Or.inl isRoot)
    · exact Or.inl here
    · exact Or.inr (Or.inr there)
  · rintro (here | isRoot | there)
    · exact Or.inr (Or.inl here)
    · exact Or.inl isRoot
    · exact Or.inr (Or.inr there)

theorem WellFormed.add_directory (wellFormed : disk.WellFormed) {added : Location}
    (inside : disk.isDirectory added.tail = true) (free : disk.fileAt? added = none) :
    (disk.addDirectory added).WellFormed where
  working_directory := by
    rw [add_directory_is_directory_iff]
    exact Or.inr wellFormed.working_directory
  parent location isDirectory := by
    rw [add_directory_is_directory_iff] at *
    rcases isDirectory with here | there
    · rw [here]
      exact Or.inr inside
    · exact Or.inr (wellFormed.parent location there)
  no_file location isDirectory := by
    rw [add_directory_is_directory_iff] at isDirectory
    rcases isDirectory with here | there
    · rw [here]
      exact free
    · exact wellFormed.no_file location there
  in_range := wellFormed.in_range
  single := wellFormed.single

/-- A file that is not there has no table. -/
theorem lt_of_table (table : (disk.content file).hasTable = true) :
    file < disk.contents.length := by
  apply Nat.lt_of_not_le
  intro beyond
  rw [content, List.getD_eq_getElem?_getD, List.getElem?_eq_none beyond] at table
  cases table

theorem content_set_content_self (inRange : file < disk.contents.length) :
    (disk.setContent file content).content file = content := by
  simp [setContent, Disk.content, List.getD_eq_getElem?_getD, inRange]

theorem content_set_content_of_ne {another : FileId} (different : another ≠ file) :
    (disk.setContent file content).content another = disk.content another := by
  simp [setContent, Disk.content, List.getD_eq_getElem?_getD, List.getElem?_set_ne different.symm]

/-- Whatever holds of the contents of a file before a write and of what is written holds
afterwards. -/
theorem content_set_content_of {other : FileId} {motive : FileContent → Prop}
    (before : motive (disk.content other)) (written : other = file → motive content) :
    motive ((disk.setContent file content).content other) := by
  by_cases same : other = file
  · by_cases inRange : file < disk.contents.length
    · rw [same, content_set_content_self inRange]
      exact written same
    · rw [setContent, List.set_eq_of_length_le (Nat.le_of_not_lt inRange)]
      exact before
  · rw [content_set_content_of_ne same]
    exact before

theorem file_set_content_self (wellFormed : disk.WellFormed)
    (named : disk.fileAt? location = some file) :
    (disk.setContent file content).file? location = some content := by
  have same : (disk.setContent file content).fileAt? location = some file := named
  rw [file_of_named same, content_set_content_self (wellFormed.in_range location file named)]

theorem file_set_content_of_ne (wellFormed : disk.WellFormed)
    (named : disk.fileAt? location = some file) (different : other ≠ location) :
    (disk.setContent file content).file? other = disk.file? other := by
  cases found : disk.fileAt? other with
  | none => rw [file_eq_none_iff.mpr found]; exact file_eq_none_iff.mpr found
  | some another =>
      have apart : another ≠ file := by
        intro same
        rw [same] at found
        exact different (wellFormed.single other location file found named)
      have same : (disk.setContent file content).fileAt? other = some another := found
      rw [file_of_named same, file_of_named found, content_set_content_of_ne apart]

theorem WellFormed.set_content (wellFormed : disk.WellFormed) :
    (disk.setContent file content).WellFormed where
  working_directory := wellFormed.working_directory
  parent := wellFormed.parent
  no_file := wellFormed.no_file
  in_range location found named := by
    have inRange := wellFormed.in_range location found named
    simpa [setContent] using inRange
  single := wellFormed.single

theorem file_at_create_self : (disk.create location content).2.fileAt? location =
    some disk.contents.length := by
  simp [create, createUnnamed, fileAt?]

theorem file_at_create_of_ne (different : other ≠ location) :
    (disk.create location content).2.fileAt? other = disk.fileAt? other := by
  simp only [create, createUnnamed, fileAt?]
  rw [List.lookup_cons, beq_eq_false_iff_ne.mpr different]

theorem content_create_unnamed_self :
    (disk.createUnnamed content).2.content disk.contents.length = content := by
  simp [createUnnamed, Disk.content, List.getD_eq_getElem?_getD]

theorem content_create_unnamed_of_lt (inRange : file < disk.contents.length) :
    (disk.createUnnamed content).2.content file = disk.content file := by
  simp [createUnnamed, Disk.content, List.getD_eq_getElem?_getD,
    List.getElem?_append_left inRange]

theorem content_create_self :
    (disk.create location content).2.content disk.contents.length = content :=
  content_create_unnamed_self

theorem content_create_of_lt (inRange : file < disk.contents.length) :
    (disk.create location content).2.content file = disk.content file :=
  content_create_unnamed_of_lt inRange

theorem file_create_self :
    (disk.create location content).2.file? location = some content := by
  rw [file_of_named file_at_create_self, content_create_self]

theorem file_create_of_ne (wellFormed : disk.WellFormed) (different : other ≠ location) :
    (disk.create location content).2.file? other = disk.file? other := by
  cases found : disk.fileAt? other with
  | none =>
      rw [file_eq_none_iff.mpr found, file_eq_none_iff, file_at_create_of_ne different, found]
  | some another =>
      have same : (disk.create location content).2.fileAt? other = some another := by
        rw [file_at_create_of_ne different, found]
      rw [file_of_named same, file_of_named found,
        content_create_of_lt (wellFormed.in_range other another found)]

theorem WellFormed.create_unnamed (wellFormed : disk.WellFormed) :
    (disk.createUnnamed content).2.WellFormed where
  working_directory := wellFormed.working_directory
  parent := wellFormed.parent
  no_file := wellFormed.no_file
  in_range place file named := by
    have inRange := wellFormed.in_range place file named
    exact Nat.lt_of_lt_of_le inRange (by simp [createUnnamed])
  single := wellFormed.single

theorem WellFormed.create (wellFormed : disk.WellFormed)
    (free : disk.isDirectory location = false) :
    (disk.create location content).2.WellFormed where
  working_directory := wellFormed.working_directory
  parent := wellFormed.parent
  no_file other isDirectory := by
    have before : disk.isDirectory other = true := isDirectory
    have different : other ≠ location := by
      intro same
      rw [same, free] at before
      cases before
    rw [file_at_create_of_ne different]
    exact wellFormed.no_file other before
  in_range other found named := by
    have longer : (disk.create location content).2.contents.length = disk.contents.length + 1 := by
      simp [Disk.create, createUnnamed]
    rw [longer]
    by_cases same : other = location
    · rw [same, file_at_create_self] at named
      rw [← Option.some.inj named]
      exact Nat.lt_succ_self _
    · rw [file_at_create_of_ne same] at named
      exact Nat.lt_succ_of_lt (wellFormed.in_range other found named)
  single first second found firstNamed secondNamed := by
    have fresh {place : Location} (named : disk.fileAt? place = some disk.contents.length) :
        False := Nat.lt_irrefl _ (wellFormed.in_range place _ named)
    by_cases isFirst : first = location
    · by_cases isSecond : second = location
      · rw [isFirst, isSecond]
      · rw [isFirst, file_at_create_self] at firstNamed
        rw [file_at_create_of_ne isSecond, ← firstNamed] at secondNamed
        exact (fresh secondNamed).elim
    · rw [file_at_create_of_ne isFirst] at firstNamed
      by_cases isSecond : second = location
      · rw [isSecond, file_at_create_self] at secondNamed
        rw [← secondNamed] at firstNamed
        exact (fresh firstNamed).elim
      · rw [file_at_create_of_ne isSecond] at secondNamed
        exact wellFormed.single first second found firstNamed secondNamed

theorem file_at_unlink_self : (disk.unlink location).fileAt? location = none := by
  rw [unlink, fileAt?, List.lookup_eq_none_iff]
  intro entry member
  rw [List.mem_filter, decide_eq_true_eq] at member
  rw [bne_iff_ne]
  exact member.2.symm

theorem lookup_filter_ne (names : List (Location × FileId)) (different : other ≠ location) :
    (names.filter fun entry => entry.1 ≠ location).lookup other = names.lookup other := by
  induction names with
  | nil => rfl
  | cons entry rest induction =>
      obtain ⟨place, found⟩ := entry
      by_cases removed : place = location
      · rw [List.filter_cons_of_neg (by simp [removed]), induction, List.lookup_cons, removed,
          beq_eq_false_iff_ne.mpr different]
      · rw [List.filter_cons_of_pos (by simp [removed]), List.lookup_cons, List.lookup_cons,
          induction]

theorem file_at_unlink_of_ne (different : other ≠ location) :
    (disk.unlink location).fileAt? other = disk.fileAt? other :=
  lookup_filter_ne disk.names different

theorem file_unlink_of_ne (different : other ≠ location) :
    (disk.unlink location).file? other = disk.file? other := by
  rw [file?, file_at_unlink_of_ne different]
  rfl

theorem file_at_of_unlink (named : (disk.unlink location).fileAt? other = some file) :
    disk.fileAt? other = some file := by
  by_cases same : other = location
  · rw [same, file_at_unlink_self] at named
    cases named
  · rwa [file_at_unlink_of_ne same] at named

theorem WellFormed.unlink (wellFormed : disk.WellFormed) : (disk.unlink location).WellFormed where
  working_directory := wellFormed.working_directory
  parent := wellFormed.parent
  no_file other isDirectory := by
    have before := wellFormed.no_file other isDirectory
    cases found : (disk.unlink location).fileAt? other with
    | none => rfl
    | some file =>
        rw [file_at_of_unlink found] at before
        cases before
  in_range other found named := wellFormed.in_range other found (file_at_of_unlink named)
  single first second found firstNamed secondNamed :=
    wellFormed.single first second found (file_at_of_unlink firstNamed)
      (file_at_of_unlink secondNamed)

theorem is_held_hold_iff {another : FileId} :
    (disk.hold file).isHeld another = true ↔ another = file ∨ disk.isHeld another = true := by
  simp [hold, isHeld]

theorem is_held_release_iff {another : FileId} :
    (disk.release file).isHeld another = true ↔ another ≠ file ∧ disk.isHeld another = true := by
  simp [release, isHeld, and_comm]

end CensusNode.Disk
