import CensusNode.Proofs.Disk.Keeps
import CensusNode.Registry.Basic

/-!
Opening a store. What comes of it is told by what the disk shows, as long as nobody else has the
store open: alike disks give the same store or the same error, and stay alike.
-/

namespace CensusNode.Registry

def shownStore : Option FileContent → Except StoreFault Store
  | none => .ok Store.empty
  | some (.store store) => .ok store
  | some (.ledger _) => .error .invalidData
  | some (.raw []) => .ok Store.empty
  | some (.raw bytes) => .error (StoreHeader.fault bytes)

variable {disk later left right : Disk} {location : Location} {path : String} {file : FileId}
  {store : Store}

/-- A store lies in the file at a location, which was made for it when it was not there. -/
structure Opened (location : Location) (disk later : Disk) (file : FileId) (store : Store) :
    Prop where
  formed : later.WellFormed
  within : disk.Within [location] later
  named : later.fileAt? location = some file
  holds : later.file? location = some (.store store)
  same : ∀ other, disk.fileAt? location = some other → other = file

theorem Opened.store_at (opened : Opened location disk later file store) :
    later.storeAt file = store := by
  have holds := opened.holds
  rw [Disk.file_of_named opened.named] at holds
  rw [Disk.storeAt, Option.some.inj holds]
  rfl

theorem Opened.owned (opened : Opened location disk later file store) (files : List FileId) :
    Opened location disk (later.owned files) file store :=
  ⟨opened.formed.owned files, opened.within.owned files, opened.named, opened.holds, opened.same⟩

theorem Opened.alike {hidden : List Location} {leftLater rightLater : Disk} {other : FileId}
    (opened : Opened location left leftLater file store)
    (otherOpened : Opened location right rightLater other store)
    (alike : Disk.Alike hidden left right) : Disk.Alike hidden leftLater rightLater where
  working_directory := by
    rw [opened.within.working_directory, otherOpened.within.working_directory,
      alike.working_directory]
  directories place := by
    rw [opened.within.is_directory, otherOpened.within.is_directory, alike.directories]
  occupied place := by
    by_cases here : place ∈ [location]
    · rw [List.mem_singleton] at here
      rw [here, opened.named, otherOpened.named]
      rfl
    · rw [opened.within.names place here, otherOpened.within.names place here, alike.occupied]
  files place shown := by
    by_cases here : place ∈ [location]
    · rw [List.mem_singleton] at here
      rw [here, opened.holds, otherOpened.holds]
    · rw [opened.within.files place here, otherOpened.within.files place here,
        alike.files place shown]

theorem open_store_spec (formed : disk.WellFormed) (located : disk.locate path = .ok location)
    (free : disk.isDirectory location = false)
    (unheld : (disk.fileFor location).2.isHeld (disk.fileFor location).1 = false) :
    (∃ fault, shownStore (disk.file? location) = .error fault ∧
      disk.openStore path = (.error fault, disk)) ∨
    ∃ store file later, shownStore (disk.file? location) = .ok store ∧
      disk.openStore path = (.ok file, later.hold file) ∧
      Opened location disk later file store ∧ later.held = disk.held := by
  have inside : location ∈ [location] := List.mem_cons_self
  simp only [Disk.openStore, located, free, Bool.false_eq_true, if_false, Disk.openStoreFile,
    unheld]
  cases named : disk.fileAt? location with
  | none =>
      have absent := Disk.file_eq_none_iff.mpr named
      have made := disk.file_at_file_for location
      have keeps := Disk.keeps_file_for formed inside
      have madeFormed := formed.file_for free
      have holds := Disk.file_file_for_of_free named
      rw [Disk.file_of_named made] at holds
      rw [absent, Option.some.inj holds]
      refine Or.inr ⟨Store.empty, _, _, rfl, rfl, ?_, keeps.held⟩
      constructor
      · exact madeFormed.set_content
      · exact keeps.toWithin.trans (Disk.keeps_set_content madeFormed made inside).toWithin
      · exact made
      · exact Disk.file_set_content_self madeFormed made
      · intro other isOther
        rw [named] at isOther
        cases isOther
  | some file =>
      rw [Disk.file_for_of_named named] at unheld ⊢
      rw [Disk.file_of_named named]
      have only (other : FileId) (isOther : disk.fileAt? location = some other) : other = file := by
        rw [named] at isOther
        exact (Option.some.inj isOther).symm
      simp only
      cases contents : disk.content file with
      | ledger image => exact Or.inl ⟨_, rfl, rfl⟩
      | store store =>
          have holds := Disk.file_of_named named
          rw [contents] at holds
          exact Or.inr ⟨store, file, disk, rfl, rfl,
            ⟨formed, Disk.Within.refl _ disk, named, holds, only⟩, rfl⟩
      | raw bytes =>
          cases bytes with
          | cons byte rest => exact Or.inl ⟨_, rfl, rfl⟩
          | nil =>
              have keeps : disk.Keeps [location] (disk.setStore file Store.empty) :=
                Disk.keeps_set_content formed named inside
              exact Or.inr ⟨Store.empty, file, _, rfl, rfl, ⟨formed.set_content, keeps.toWithin,
                named, Disk.file_set_content_self formed named, only⟩, keeps.held⟩

/-- What opening the store at a path comes to, directories included, when nobody has it open. -/
def outcome (disk : Disk) (directory : Option String) (path : String) : Except StoreError Store :=
  match disk.prepare directory with
  | (some (failed, fault), _) => .error (.createDirectory failed fault)
  | (none, disk) =>
      match disk.locate path with
      | .error fault => .error (.openFile path (.io fault))
      | .ok location =>
          if disk.isDirectory location then .error (.openFile path (.io .isDirectory))
          else
            match shownStore (disk.file? location) with
            | .error fault => .error (.openFile path fault)
            | .ok store => .ok store

variable {directory : Option String}

theorem outcome_eq_ok (shown : outcome disk directory path = .ok store) :
    disk.prepare directory = (none, (disk.prepare directory).2) ∧
      ∃ location, (disk.prepare directory).2.locate path = .ok location ∧
        shownStore ((disk.prepare directory).2.file? location) = .ok store := by
  unfold outcome at shown
  cases preparing : disk.prepare directory with
  | mk failure made =>
      rw [preparing] at shown
      cases failure with
      | some failure => cases shown
      | none =>
          simp only at shown ⊢
          cases located : made.locate path with
          | error fault =>
              rw [located] at shown
              cases shown
          | ok location =>
              rw [located] at shown
              simp only at shown
              split at shown
              · cases shown
              · split at shown
                · cases shown
                · rename_i found isStore
                  rw [Except.ok.inj shown] at isStore
                  exact ⟨trivial, location, rfl, isStore⟩

/-- Opening a store comes to what the disk shows. -/
theorem open_store_in_spec (formed : disk.WellFormed)
    (unheld : ∀ location, (disk.prepare directory).2.locate path = .ok location →
      ((disk.prepare directory).2.fileFor location).2.isHeld
        ((disk.prepare directory).2.fileFor location).1 = false) :
    (∃ error, outcome disk directory path = .error error ∧
      openStoreIn disk directory path = (.error error, (disk.prepare directory).2)) ∨
    ∃ store location file later, outcome disk directory path = .ok store ∧
      openStoreIn disk directory path = (.ok file, later.hold file) ∧
      (disk.prepare directory).2.locate path = .ok location ∧
      Opened location (disk.prepare directory).2 later file store ∧ later.held = disk.held := by
  have madeFormed := Disk.prepare_well_formed formed directory
  have grows := disk.prepare_grows directory
  unfold outcome openStoreIn
  cases preparing : disk.prepare directory with
  | mk failure made =>
      rw [preparing] at unheld madeFormed grows
      cases failure with
      | some failure => exact Or.inl ⟨_, rfl, rfl⟩
      | none =>
          simp only
          cases located : made.locate path with
          | error fault =>
              refine Or.inl ⟨_, rfl, ?_⟩
              simp only [Disk.openStore, located]
          | ok location =>
              cases isDirectory : made.isDirectory location with
              | true =>
                  simp only [if_true, isDirectory]
                  refine Or.inl ⟨_, rfl, ?_⟩
                  simp only [Disk.openStore, located, isDirectory, if_true]
              | false =>
                  simp only [Bool.false_eq_true, if_false, isDirectory]
                  rcases open_store_spec madeFormed located isDirectory
                      (unheld location located) with
                    ⟨fault, shown, refused⟩ | ⟨store, file, later, shown, isOpen, opened, held⟩
                  · left
                    refine ⟨.openFile path fault, ?_, ?_⟩
                    · simp only [shown]
                    · simp only [refused]
                  · right
                    refine ⟨store, location, file, later, ?_, ?_, rfl, opened, ?_⟩
                    · simp only [shown]
                    · simp only [isOpen]
                    · rw [held, grows.held]

theorem outcome_alike {hidden : List Location} (alike : Disk.Alike hidden left right)
    (shown : ∀ location, (right.prepare directory).2.locate path = .ok location →
      location ∉ hidden) : outcome left directory path = outcome right directory path := by
  obtain ⟨same, madeAlike⟩ := alike.prepare directory
  unfold outcome
  revert same madeAlike shown
  cases left.prepare directory with
  | mk leftFailure leftMade =>
      cases right.prepare directory with
      | mk rightFailure rightMade =>
          simp only
          intro shown same madeAlike
          rw [same]
          cases rightFailure with
          | some failure => rfl
          | none =>
              simp only [madeAlike.locate]
              cases located : rightMade.locate path with
              | error fault => rfl
              | ok location =>
                  have isShown := shown location located
                  simp only [madeAlike.directories, madeAlike.files location isShown]

end CensusNode.Registry
