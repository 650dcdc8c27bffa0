import CensusNode.Proofs.Census.Persistence
import CensusNode.Proofs.Registry.StoreFile

/-!
What resolving a census does to a registry, and what requests addressed to a census do. A request is
made of steps that resolve the census and steps that replace the set of a loaded one; what all of
these keep is kept by every request.
-/

namespace CensusNode.Registry

variable {registry : Registry} {id : CensusId} {census : LoadedCensus}

/-- The disk with the directories of a census, as far as they can be made. -/
def reached (registry : Registry) (id : CensusId) : Disk :=
  (registry.disk.prepare (some (censusDirectory registry.censusRoot id))).2

theorem reached_grows (registry : Registry) (id : CensusId) :
    registry.disk.Grows (registry.reached id) := registry.disk.prepare_grows _

def Offers (registry : Registry) (id : CensusId) (store : Store) : Prop :=
  Available registry.disk (some (censusDirectory registry.censusRoot id))
    (censusPath registry.censusRoot id) (storePlace registry.disk registry.censusRoot id) store

/-- What opening the store of a census comes to when nobody has it open. -/
def offer (registry : Registry) (id : CensusId) : Except StoreError Store :=
  outcome registry.disk (some (censusDirectory registry.censusRoot id))
    (censusPath registry.censusRoot id)

/-- Why a census cannot be loaded: its store is not there to be opened, somebody else has it open,
or its records cannot be read. -/
inductive Unloadable (registry : Registry) (id : CensusId) : RegistryError → Prop where
  | unopened (error : StoreError) (failed : registry.offer id = .error error) :
      Unloadable registry id (.load id error)
  | taken (held : Taken registry.disk (some (censusDirectory registry.censusRoot id))
      (censusPath registry.censusRoot id)) : Unloadable registry id
        (.load id (.openFile (censusPath registry.censusRoot id) .alreadyOpen))
  | unreadable (store : Store) (fault : IdentityError) (offered : registry.offer id = .ok store)
      (failed : IdentitySet.load store.census = .error fault) :
      Unloadable registry id (.identitySet id fault)

def loadedFrom (registry : Registry) (id : CensusId) (store : Store) (set : IdentitySet) :
    LoadedCensus × Registry :=
  let opened := (registry.reached id).withStore
    (storePlace registry.disk registry.censusRoot id) store
  (⟨id, opened.1, set.sealed⟩,
    { registry with
      disk := opened.2.hold opened.1
      loaded := registry.loaded ++ [⟨id, opened.1, set.sealed⟩]
      storeOpens := registry.storeOpens + 1 })

/-- What resolving a census comes to, with the registry afterwards. -/
inductive Resolution (registry : Registry) (id : CensusId) :
    Except RegistryError LoadedCensus → Registry → Prop where
  | loaded (census : LoadedCensus) (found : registry.find? id = some census) :
      Resolution registry id (.ok census) registry
  | refused (error : RegistryError) (opens : Nat) (absent : registry.find? id = none)
      (reason : Unloadable registry id error) : Resolution registry id (.error error)
        { registry with disk := registry.reached id, storeOpens := opens }
  | opened (store : Store) (set : IdentitySet) (absent : registry.find? id = none)
      (offered : registry.offer id = .ok store) (offers : registry.Offers id store)
      (loads : IdentitySet.load store.census = .ok set) :
      Resolution registry id (.ok (registry.loadedFrom id store set).1)
        (registry.loadedFrom id store set).2

theorem Offers.of_available {location : Location} {store : Store}
    (available : Available registry.disk (some (censusDirectory registry.censusRoot id))
      (censusPath registry.censusRoot id) location store) :
    location = storePlace registry.disk registry.censusRoot id ∧ registry.Offers id store := by
  have isPlace : location = storePlace registry.disk registry.censusRoot id := by
    rw [locate_census_path available.located]
    exact store_place_extends (registry.reached_grows id).toExtends _ _
  rw [isPlace] at available
  exact ⟨isPlace, available⟩

/-- A store that is opened and given back is as it was. Only a store that was there already can have
records that cannot be read. -/
theorem release_unreadable {disk : Disk} {location : Location} {store : Store}
    {fault : IdentityError} (shown : shownStore (disk.file? location) = .ok store)
    (unheld : ∀ file, disk.fileAt? location = some file → disk.isHeld file = false)
    (failed : IdentitySet.load store.census = .error fault) :
    ((disk.withStore location store).2.hold (disk.withStore location store).1).release
      (disk.withStore location store).1 = disk := by
  have notEmpty : store ≠ Store.empty := by
    intro isEmpty
    rw [isEmpty] at failed
    cases failed
  cases named : disk.fileAt? location with
  | none =>
      rw [Disk.file_eq_none_iff.mpr named] at shown
      exact absurd (Except.ok.inj shown).symm notEmpty
  | some file =>
      rw [Disk.file_of_named named] at shown
      have stays : disk.setStore file store = disk := by
        have same := disk.set_content_same file
        cases contents : disk.content file with
        | store other =>
            rw [contents] at shown same
            rw [← Except.ok.inj shown]
            exact same
        | ledger image =>
            rw [contents] at shown
            cases shown
        | raw bytes =>
            rw [contents] at shown
            cases bytes with
            | nil => exact absurd (Except.ok.inj shown).symm notEmpty
            | cons byte rest => cases shown
      have others : disk.held.filter (· ≠ file) = disk.held := by
        rw [List.filter_eq_self]
        intro other member
        have free := unheld file named
        rw [decide_eq_true_eq]
        intro same
        rw [Disk.isHeld, ← same, List.contains_eq_mem, decide_eq_false_iff_not] at free
        exact free member
      rw [Disk.withStore, Disk.file_for_of_named named, stays]
      simp only [Disk.hold, Disk.release]
      rw [List.filter_cons_of_neg (by simp), others]

theorem resolve_cases (formed : registry.disk.WellFormed) (known : registry.disk.HeldFilesKnown)
    (id : CensusId) :
    Resolution registry id (registry.resolve id).1 (registry.resolve id).2 := by
  unfold resolve
  cases found : registry.find? id with
  | some census => exact .loaded census found
  | none =>
      unfold load
      rcases open_store_in_cases known (some (censusDirectory registry.censusRoot id))
          (censusPath registry.censusRoot id) with
        ⟨error, failed, refused⟩ | ⟨taken, refused⟩ | ⟨location, store, available, offered, isOpen⟩
      · simp only [refused]
        exact .refused _ _ found (.unopened error failed)
      · simp only [refused]
        exact .refused _ _ found (.taken taken)
      · obtain ⟨isPlace, offers⟩ := Offers.of_available available
        rw [isPlace] at isOpen
        have contents := Disk.with_store_store_at
          (Disk.prepare_well_formed formed (some (censusDirectory registry.censusRoot id)))
          offers.free store
        cases loads : IdentitySet.load store.census with
        | error fault =>
            have grows := registry.reached_grows id
            have unheld : ∀ file, (registry.reached id).fileAt?
                (storePlace registry.disk registry.censusRoot id) = some file →
                  (registry.reached id).isHeld file = false := by
              intro file named
              rw [grows.file_at] at named
              rw [grows.is_held]
              exact offers.unheld file named
            have shown : shownStore ((registry.reached id).file?
                (storePlace registry.disk registry.censusRoot id)) = .ok store := by
              rw [grows.file]
              exact offers.shown
            have released := release_unreadable shown unheld loads
            simp only [isOpen, Disk.store_at_hold, contents, loads]
            rw [← reached, released]
            exact .refused _ _ found (.unreadable store fault offered loads)
        | ok set =>
            simp only [isOpen, Disk.store_at_hold, contents, loads]
            exact .opened store set found offered offers loads

end CensusNode.Registry
