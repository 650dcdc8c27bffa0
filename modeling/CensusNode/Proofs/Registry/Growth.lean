import CensusNode.Proofs.Registry.Requests

/-!
What resolving a census leaves alone. Directories and names are only added, no file that somebody
has open changes, and a census that could not be loaded leaves no trace but directories.
-/

namespace CensusNode

namespace Disk

/-- No directory and no name went away, and whatever has an owner is still owned and as it was. -/
structure Adds (disk later : Disk) : Prop extends Extends disk later where
  names : ∀ place file, disk.fileAt? place = some file → later.fileAt? place = some file
  owned : ∀ file, disk.isHeld file = true →
    later.isHeld file = true ∧ later.content file = disk.content file

variable {disk later : Disk} {location : Location} {store : Store}

theorem Adds.refl (disk : Disk) : Adds disk disk :=
  ⟨Extends.refl disk, fun _ _ named => named, fun _ held => ⟨held, rfl⟩⟩

theorem Adds.trans {last : Disk} (first : Adds disk later) (second : Adds later last) :
    Adds disk last where
  toExtends := first.toExtends.trans second.toExtends
  names place file named := second.names place file (first.names place file named)
  owned file held := by
    obtain ⟨heldLater, same⟩ := first.owned file held
    obtain ⟨heldLast, sameLast⟩ := second.owned file heldLater
    exact ⟨heldLast, sameLast.trans same⟩

theorem Grows.adds (grows : Grows disk later) : Adds disk later where
  toExtends := grows.toExtends
  names place file named := by rw [grows.file_at, named]
  owned file held := by
    rw [grows.is_held]
    exact ⟨held, grows.content file⟩

theorem Grows.known (grows : Grows disk later) (known : disk.HeldFilesKnown) :
    later.HeldFilesKnown := by
  intro file held
  rw [grows.is_held] at held
  rw [grows.contents]
  exact known file held

theorem with_store_hold_adds (formed : disk.WellFormed) (known : disk.HeldFilesKnown)
    (free : disk.isDirectory location = false)
    (unheld : ∀ file, disk.fileAt? location = some file → disk.isHeld file = false) :
    Adds disk ((disk.withStore location store).2.hold (disk.withStore location store).1) where
  toExtends := ((with_store_keeps formed free store).toWithin.owned _).extended
  names place file named := with_store_file_at store formed free named
  owned file held := by
    have different : file ≠ (disk.withStore location store).1 := by
      intro same
      rw [same, with_store_file_unheld known unheld] at held
      cases held
    constructor
    · rw [is_held_hold_iff, isHeld, with_store_held, ← isHeld]
      exact Or.inr held
    · exact with_store_content different

theorem with_store_hold_known (formed : disk.WellFormed) (known : disk.HeldFilesKnown)
    (free : disk.isDirectory location = false) :
    ((disk.withStore location store).2.hold
      (disk.withStore location store).1).HeldFilesKnown := by
  intro file held
  rw [is_held_hold_iff] at held
  rcases held with isNew | before
  · rw [isNew]
    exact (with_store_formed formed free store).in_range _ _ (with_store_named disk location store)
  · rw [isHeld, with_store_held, ← isHeld] at before
    exact Nat.lt_of_lt_of_le (known file before) (disk.with_store_length location store)

end Disk

namespace Registry

variable {registry after : Registry} {id : CensusId} {census : LoadedCensus}
  {found : Except RegistryError LoadedCensus}

structure Grown (registry : Registry) (id : CensusId) (after : Registry) : Prop where
  adds : registry.disk.Adds after.disk
  formed : after.disk.WellFormed
  known : after.disk.HeldFilesKnown
  control : after.control = registry.control
  root : after.censusRoot = registry.censusRoot
  /-- A census that was not loaded before lies in a file of its place that nobody had open. -/
  loaded : ∀ census ∈ after.loaded, census ∈ registry.loaded ∨
    census.id = id ∧ registry.disk.isHeld census.file = false ∧
      after.disk.fileAt? (storePlace registry.disk registry.censusRoot id) = some census.file
  elsewhere : ∀ place, place ≠ storePlace registry.disk registry.censusRoot id →
    after.disk.fileAt? place = registry.disk.fileAt? place ∧
      after.disk.file? place = registry.disk.file? place

theorem Grown.store_place (grown : Grown registry id after) (other : CensusId) :
    storePlace after.disk after.censusRoot other =
      storePlace registry.disk registry.censusRoot other := by
  rw [grown.root, store_place_extends grown.adds.toExtends]

theorem Offers.unheld_reached {store : Store} (offers : registry.Offers id store) {file : FileId}
    (named : (registry.reached id).fileAt?
      (storePlace registry.disk registry.censusRoot id) = some file) :
    (registry.reached id).isHeld file = false := by
  have grows := registry.reached_grows id
  rw [grows.file_at] at named
  rw [grows.is_held]
  exact offers.unheld file named

theorem Resolution.grown (resolution : Resolution registry id found after)
    (formed : registry.disk.WellFormed) (known : registry.disk.HeldFilesKnown) :
    Grown registry id after := by
  have grows := registry.reached_grows id
  have reachedFormed : (registry.reached id).WellFormed := Disk.prepare_well_formed formed _
  have reachedKnown := grows.known known
  cases resolution with
  | loaded census isFound =>
      exact ⟨Disk.Adds.refl _, formed, known, rfl, rfl, fun _ member => Or.inl member,
        fun _ _ => ⟨rfl, rfl⟩⟩
  | refused error opens absent reason =>
      exact ⟨grows.adds, reachedFormed, reachedKnown, rfl, rfl, fun _ member => Or.inl member,
        fun place _ => ⟨grows.file_at place, grows.file place⟩⟩
  | opened store set absent offered offers loads =>
      have unheld : ∀ file, (registry.reached id).fileAt?
          (storePlace registry.disk registry.censusRoot id) = some file →
            (registry.reached id).isHeld file = false := fun _ => offers.unheld_reached
      have free : (registry.reached id).isHeld ((registry.reached id).withStore
          (storePlace registry.disk registry.censusRoot id) store).1 = false :=
        Disk.with_store_file_unheld reachedKnown unheld
      have named := Disk.with_store_named (registry.reached id)
        (storePlace registry.disk registry.censusRoot id) store
      have keeps := Disk.with_store_keeps reachedFormed offers.free store
      constructor
      · exact grows.adds.trans
          (Disk.with_store_hold_adds reachedFormed reachedKnown offers.free unheld)
      · exact (Disk.with_store_formed reachedFormed offers.free store).owned _
      · exact Disk.with_store_hold_known reachedFormed reachedKnown offers.free
      · rfl
      · rfl
      · intro census member
        rcases List.mem_append.mp member with before | isNew
        · exact Or.inl before
        · rw [List.mem_singleton] at isNew
          rw [isNew, ← grows.is_held]
          have namedAfter : (registry.loadedFrom id store set).2.disk.fileAt?
              (storePlace registry.disk registry.censusRoot id) = some ((registry.reached id).withStore
                (storePlace registry.disk registry.censusRoot id) store).1 := by
            simp only [loadedFrom, Disk.file_at_hold, named]
          simp only [free, namedAfter, and_self, or_true]
      · intro place different
        rw [← grows.file_at, ← grows.file]
        have outside : place ∉ [storePlace registry.disk registry.censusRoot id] := by
          rw [List.mem_singleton]
          exact different
        exact ⟨keeps.names place outside, keeps.files place outside⟩

theorem Offers.holds {store : Store} (offers : registry.Offers id store)
    (formed : registry.disk.WellFormed) (set : IdentitySet) :
    (registry.loadedFrom id store set).2.disk.file?
      (storePlace registry.disk registry.censusRoot id) = some (.store store) := by
  have holds := Disk.with_store_holds (Disk.prepare_well_formed formed _) offers.free store
  simp only [loadedFrom, reached, Disk.file_hold, holds]

/-- A census that cannot be loaded leaves directories behind and nothing else. -/
theorem Resolution.of_error {error : RegistryError}
    (resolution : Resolution registry id (.error error) after) :
    ∃ opens, after = { registry with disk := registry.reached id, storeOpens := opens } := by
  generalize isError : Except.error (α := LoadedCensus) error = answer at resolution
  cases resolution with
  | loaded census isFound => exact absurd isError (by simp)
  | refused other opens absent reason => exact ⟨opens, rfl⟩
  | opened store set absent offered offers loads => exact absurd isError (by simp)

theorem resolve_grown (formed : registry.disk.WellFormed) (known : registry.disk.HeldFilesKnown)
    (id : CensusId) : Grown registry id (registry.resolve id).2 :=
  (resolve_cases formed known id).grown formed known

end Registry

end CensusNode
