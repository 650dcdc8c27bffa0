import CensusNode.Proofs.Disk.Follow
import CensusNode.Proofs.Registry.Opening
import CensusNode.Proofs.Registry.Site

/-!
Opening a store on any disk, whoever else has files open on it. Either nothing but directories is
added, or the store comes to be owned in the file at its place, and no other file changes. The store
of a census has one place below the directory of all censuses, and no two censuses share it.
-/

namespace CensusNode

namespace Disk

variable {disk later : Disk} {location place : Location} {file : FileId} {store : Store}

/-- Every store file that an owner has open is there. -/
def HeldFilesKnown (disk : Disk) : Prop :=
  ∀ file, disk.isHeld file = true → file < disk.contents.length

/-- The file at a location, which is made when it is not there, and the disk with a store in it. -/
def withStore (disk : Disk) (location : Location) (store : Store) : FileId × Disk :=
  ((disk.fileFor location).1,
    (disk.fileFor location).2.setStore (disk.fileFor location).1 store)

theorem set_content_same (disk : Disk) (file : FileId) :
    disk.setContent file (disk.content file) = disk := by
  by_cases inRange : file < disk.contents.length
  · have same : disk.content file = disk.contents[file] := by
      rw [content, List.getD_eq_getElem?_getD, List.getElem?_eq_getElem inRange, Option.getD_some]
    rw [setContent, same, List.set_getElem_self]
  · rw [setContent, List.set_eq_of_length_le (Nat.le_of_not_lt inRange)]

theorem unheld_file_for (known : disk.HeldFilesKnown)
    (unheld : ∀ file, disk.fileAt? location = some file → disk.isHeld file = false) :
    (disk.fileFor location).2.isHeld (disk.fileFor location).1 = false := by
  rw [isHeld, held_file_for, ← isHeld]
  cases named : disk.fileAt? location with
  | some file =>
      rw [file_for_of_named named]
      exact unheld file named
  | none =>
      rw [file_for_of_free named, ← Bool.not_eq_true]
      intro held
      exact Nat.lt_irrefl _ (known _ held)

theorem with_store_file_unheld (known : disk.HeldFilesKnown)
    (unheld : ∀ file, disk.fileAt? location = some file → disk.isHeld file = false) :
    disk.isHeld (disk.withStore location store).1 = false := by
  have free := unheld_file_for known unheld
  rwa [isHeld, held_file_for, ← isHeld] at free

theorem with_store_held (disk : Disk) (location : Location) (store : Store) :
    (disk.withStore location store).2.held = disk.held := held_file_for disk location

theorem with_store_named (disk : Disk) (location : Location) (store : Store) :
    (disk.withStore location store).2.fileAt? location = some (disk.withStore location store).1 :=
  disk.file_at_file_for location

theorem with_store_formed (formed : disk.WellFormed) (free : disk.isDirectory location = false)
    (store : Store) : (disk.withStore location store).2.WellFormed :=
  (formed.file_for free).set_content

theorem with_store_holds (formed : disk.WellFormed) (free : disk.isDirectory location = false)
    (store : Store) : (disk.withStore location store).2.file? location = some (.store store) :=
  file_set_content_self (formed.file_for free) (disk.file_at_file_for location)

theorem with_store_store_at (formed : disk.WellFormed) (free : disk.isDirectory location = false)
    (store : Store) :
    (disk.withStore location store).2.storeAt (disk.withStore location store).1 = store := by
  have holds := with_store_holds formed free store
  rw [file_of_named (with_store_named disk location store)] at holds
  rw [storeAt, Option.some.inj holds]
  rfl

theorem with_store_file_eq (disk : Disk) (location : Location) (store next : Store) :
    (disk.withStore location store).1 = (disk.withStore location next).1 := rfl

theorem with_store_again (disk : Disk) (location : Location) (store next : Store) :
    (disk.withStore location store).2.setStore (disk.withStore location store).1 next =
      (disk.withStore location next).2 := by
  simp only [withStore, setStore, setContent, List.set_set]

theorem store_at_hold {another : FileId} :
    (disk.hold another).storeAt file = disk.storeAt file := rfl

theorem set_store_hold {another : FileId} :
    (disk.hold another).setStore file store = (disk.setStore file store).hold another := rfl

theorem with_store_keeps (formed : disk.WellFormed) (free : disk.isDirectory location = false)
    (store : Store) : disk.Keeps [location] (disk.withStore location store).2 := by
  have inside : location ∈ [location] := List.mem_cons_self
  exact (keeps_file_for formed inside).trans
    (keeps_set_content (formed.file_for free) (disk.file_at_file_for location) inside)

theorem with_store_length (disk : Disk) (location : Location) (store : Store) :
    disk.contents.length ≤ (disk.withStore location store).2.contents.length := by
  have same : (disk.withStore location store).2.contents.length =
      (disk.fileFor location).2.contents.length := List.length_set
  rw [same]
  exact disk.length_file_for location

theorem with_store_content {other : FileId} (different : other ≠ (disk.withStore location store).1) :
    (disk.withStore location store).2.content other = disk.content other := by
  have outside : (disk.withStore location store).2.content other =
      (disk.fileFor location).2.content other := content_set_content_of_ne different
  rw [outside, content_file_for]

theorem with_store_file_at (store : Store) (formed : disk.WellFormed) (free : disk.isDirectory location = false)
    (named : disk.fileAt? place = some file) :
    (disk.withStore location store).2.fileAt? place = some file := by
  by_cases here : place = location
  · rw [here] at named ⊢
    rw [with_store_named, withStore, file_for_of_named named]
  · rw [(with_store_keeps formed free store).names place (by simpa using here), named]

/-- What a disk shows at a place does not depend on the owners of files. -/
theorem file_at_hold : (disk.hold file).fileAt? place = disk.fileAt? place := rfl

theorem file_hold : (disk.hold file).file? place = disk.file? place := rfl

-- From here on a store that is put on a disk is known by the lemmas above only.
attribute [irreducible] withStore

end Disk

namespace Registry

variable {disk : Disk} {directory : Option String} {path : String} {location : Location}
  {file : FileId} {store : Store}

/-- The store at a path can be opened: it lies at a place that nothing keeps from being reached. -/
structure Available (disk : Disk) (directory : Option String) (path : String)
    (location : Location) (store : Store) : Prop where
  prepared : disk.prepare directory = (none, (disk.prepare directory).2)
  located : (disk.prepare directory).2.locate path = .ok location
  free : (disk.prepare directory).2.isDirectory location = false
  unheld : ∀ file, disk.fileAt? location = some file → disk.isHeld file = false
  shown : shownStore (disk.file? location) = .ok store

def Taken (disk : Disk) (directory : Option String) (path : String) : Prop :=
  ∃ location file, (disk.prepare directory).2.locate path = .ok location ∧
    disk.fileAt? location = some file ∧ disk.isHeld file = true

theorem open_store_file_spec (disk : Disk) (file : FileId) (unheld : disk.isHeld file = false) :
    disk.openStoreFile file =
      match shownStore (some (disk.content file)) with
      | .ok store => (.ok file, (disk.setStore file store).hold file)
      | .error fault => (.error fault, disk) := by
  unfold Disk.openStoreFile
  rw [unheld]
  cases contents : disk.content file with
  | store store =>
      have same := disk.set_content_same file
      rw [contents] at same
      simp only [Bool.false_eq_true, if_false, shownStore, Disk.setStore, same]
  | ledger image => rfl
  | raw bytes =>
      cases bytes with
      | nil => rfl
      | cons byte rest => rfl

theorem shown_file_for (disk : Disk) (location : Location) :
    shownStore (some ((disk.fileFor location).2.content (disk.fileFor location).1)) =
      shownStore (disk.file? location) := by
  cases named : disk.fileAt? location with
  | some file => rw [Disk.file_for_of_named named, Disk.file_of_named named]
  | none =>
      have holds := Disk.file_file_for_of_free named
      rw [Disk.file_of_named (disk.file_at_file_for location)] at holds
      rw [holds, Disk.file_eq_none_iff.mpr named]
      rfl

theorem file_for_of_refused {fault : StoreFault}
    (refused : shownStore (disk.file? location) = .error fault) :
    (disk.fileFor location).2 = disk := by
  cases named : disk.fileAt? location with
  | some file => rw [Disk.file_for_of_named named]
  | none =>
      rw [Disk.file_eq_none_iff.mpr named] at refused
      cases refused

/-- A store is opened unless it cannot be reached, somebody else has it open, or what lies in its
place is no store. -/
theorem open_store_in_cases (known : disk.HeldFilesKnown) (directory : Option String)
    (path : String) :
    (∃ error, outcome disk directory path = .error error ∧
      openStoreIn disk directory path = (.error error, (disk.prepare directory).2)) ∨
    (Taken disk directory path ∧ openStoreIn disk directory path =
      (.error (.openFile path .alreadyOpen), (disk.prepare directory).2)) ∨
    ∃ location store, Available disk directory path location store ∧
      outcome disk directory path = .ok store ∧ openStoreIn disk directory path =
        (.ok ((disk.prepare directory).2.withStore location store).1,
          ((disk.prepare directory).2.withStore location store).2.hold
            ((disk.prepare directory).2.withStore location store).1) := by
  have grows := disk.prepare_grows directory
  have madeKnown : (disk.prepare directory).2.HeldFilesKnown := by
    intro file held
    rw [grows.is_held] at held
    rw [grows.contents]
    exact known file held
  have files := grows.file
  have names := grows.file_at
  have owners := grows.is_held
  unfold outcome openStoreIn Taken
  cases preparing : disk.prepare directory with
  | mk failure made =>
      simp only [preparing] at madeKnown files names owners
      cases failure with
      | some failure => exact Or.inl ⟨_, rfl, rfl⟩
      | none =>
          simp only [Disk.openStore]
          cases located : made.locate path with
          | error fault => exact Or.inl ⟨_, rfl, rfl⟩
          | ok location =>
              simp only
              cases isDirectory : made.isDirectory location with
              | true => exact Or.inl ⟨_, rfl, rfl⟩
              | false =>
                  simp only [Bool.false_eq_true, if_false]
                  by_cases taken : ∃ file, disk.fileAt? location = some file ∧
                      disk.isHeld file = true
                  · obtain ⟨file, named, held⟩ := taken
                    refine Or.inr (Or.inl ⟨⟨location, file, rfl, named, held⟩, ?_⟩)
                    rw [← names] at named
                    rw [← owners] at held
                    simp only [Disk.file_for_of_named named, Disk.openStoreFile, held, if_true]
                  · have unheld : ∀ file, disk.fileAt? location = some file →
                        disk.isHeld file = false := by
                      intro file named
                      rw [← Bool.not_eq_true]
                      exact fun held => taken ⟨file, named, held⟩
                    have unheldMade : ∀ file, made.fileAt? location = some file →
                        made.isHeld file = false := by
                      intro file named
                      rw [names] at named
                      rw [owners]
                      exact unheld file named
                    have opening := open_store_file_spec _ _
                      (Disk.unheld_file_for madeKnown unheldMade)
                    rw [shown_file_for] at opening
                    simp only [opening]
                    cases shown : shownStore (made.file? location) with
                    | error fault =>
                        refine Or.inl ⟨_, rfl, ?_⟩
                        simp only [file_for_of_refused shown]
                    | ok store =>
                        refine Or.inr (Or.inr ⟨location, store, ?_, rfl, by rw [Disk.withStore]⟩)
                        rw [files] at shown
                        constructor
                        · rw [preparing]
                        · rw [preparing]
                          exact located
                        · rw [preparing]
                          exact isDirectory
                        · exact unheld
                        · exact shown

def censusesPlace (disk : Disk) (root : String) : Location :=
  Disk.follow (disk.origin root) (Path.stem root)

def storePlace (disk : Disk) (root : String) (id : CensusId) : Location :=
  storeFileName :: Decimal.encode id.value.toNat :: censusesPlace disk root

theorem segments_census_directory (root : String) (id : CensusId) :
    Path.segments (censusDirectory root id) = Path.stem root ++ [Decimal.encode id.value.toNat] :=
  Path.segments_join root (Decimal.is_name_encode id.value.toNat).plain

theorem segments_census_path (root : String) (id : CensusId) :
    Path.segments (censusPath root id) =
      Path.stem root ++ [Decimal.encode id.value.toNat] ++ [storeFileName] := by
  have isName := Decimal.is_name_encode id.value.toNat
  rw [censusPath, Path.segments_join _ is_name_store_file.plain, censusDirectory,
    Path.stem_join _ isName.plain isName.ne_empty]

theorem origin_census_directory (disk : Disk) (root : String) (id : CensusId) :
    disk.origin (censusDirectory root id) = disk.origin root := by
  rw [Disk.origin, censusDirectory,
    Path.is_absolute_join _ (Decimal.is_name_encode id.value.toNat).plain, Disk.origin]

theorem origin_census_path (disk : Disk) (root : String) (id : CensusId) :
    disk.origin (censusPath root id) = disk.origin root := by
  rw [← origin_census_directory disk root id, Disk.origin, censusPath,
    Path.is_absolute_join _ is_name_store_file.plain, Disk.origin]

theorem locate_census_path {root : String} {id : CensusId}
    (located : disk.locate (censusPath root id) = .ok location) :
    location = storePlace disk root id := by
  rw [Disk.follow_of_locate located, segments_census_path, List.dropLast_concat,
    List.getLast?_concat, origin_census_path, Disk.follow_append, Disk.follow_cons,
    (Decimal.is_name_encode id.value.toNat).step]
  rfl

theorem store_place_injective {root : String} {id other : CensusId}
    (same : storePlace disk root id = storePlace disk root other) : id = other :=
  CensusId.eq_of_encode (List.cons.inj (List.cons.inj same).2).1

theorem store_place_extends {later : Disk} (extended : disk.Extends later) (root : String)
    (id : CensusId) : storePlace later root id = storePlace disk root id := by
  rw [storePlace, censusesPlace, extended.origin, storePlace, censusesPlace]

end Registry

end CensusNode
