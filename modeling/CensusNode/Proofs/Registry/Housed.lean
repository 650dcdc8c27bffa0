import CensusNode.Proofs.Ledger.Handling
import CensusNode.Proofs.Registry.Access

/-!
Censuses side by side. Each census is loaded from a few places on the disk, and the control store, the
stores of all censuses and the files of the ledger are apart from one another. So resolving a census
changes none, and a write to the set of one census, to the counter or to the ledger leaves all others
as they were.
-/

namespace CensusNode

namespace Registry

variable {disk later last : Disk} {root name : String} {above : Location} {id other : CensusId}
  {file : FileId} {content : FileContent} {store : Store}

/-- The places that decide whether a census can be loaded. -/
def waypoints (disk : Disk) (root : String) (id : CensusId) : List Location :=
  [censusesPlace disk root, directoryPlace disk root id, storePlace disk root id]

/-- A later disk on which everything that a census is loaded from is as it was. -/
structure Spares (root : String) (id : CensusId) (disk later : Disk) : Prop where
  extended : disk.Extends later
  names : ∀ place ∈ waypoints disk root id, later.fileAt? place = disk.fileAt? place
  free : later.isDirectory (storePlace disk root id) = disk.isDirectory (storePlace disk root id)
  owners : ∀ file, disk.fileAt? (storePlace disk root id) = some file →
    later.isHeld file = disk.isHeld file
  shown : shownStore (later.file? (storePlace disk root id)) =
    shownStore (disk.file? (storePlace disk root id))

theorem censuses_place_extends (extended : disk.Extends later) (root : String) :
    censusesPlace later root = censusesPlace disk root := by
  rw [censusesPlace, extended.origin, censusesPlace]

theorem waypoints_extends (extended : disk.Extends later) (root : String) (id : CensusId) :
    waypoints later root id = waypoints disk root id := by
  rw [waypoints, store_place_extends extended, directoryPlace, censuses_place_extends extended,
    waypoints, directoryPlace]

namespace Spares

theorem store_name (spares : Spares root id disk later) :
    later.fileAt? (storePlace disk root id) = disk.fileAt? (storePlace disk root id) :=
  spares.names _ (by simp [waypoints])

theorem trans (first : Spares root id disk later) (second : Spares root id later last) :
    Spares root id disk last := by
  obtain ⟨extended, names, free, owners, shown⟩ := second
  rw [store_place_extends first.extended] at free owners shown
  rw [waypoints_extends first.extended] at names
  constructor
  · exact first.extended.trans extended
  · intro place member
    rw [names place member, first.names place member]
  · rw [free, first.free]
  · intro file named
    have stillNamed := named
    rw [← first.store_name] at stillNamed
    rw [owners file stillNamed, first.owners file named]
  · rw [shown, first.shown]

theorem entry_eq (spares : Spares root id disk later) :
    entry later (storePlace disk root id) = entry disk (storePlace disk root id) := by
  rw [entry, entry, spares.store_name]
  cases named : disk.fileAt? (storePlace disk root id) with
  | none => rfl
  | some file =>
      have stillNamed := named
      rw [← spares.store_name] at stillNamed
      simp only [spares.owners file named, ← Disk.file_of_named named,
        ← Disk.file_of_named stillNamed, spares.shown]

theorem access_eq (spares : Spares root id disk later) :
    access later root name id = access disk root name id := by
  have censuses := spares.names (censusesPlace disk root) (by simp [waypoints])
  have directory := spares.names (directoryPlace disk root id) (by simp [waypoints])
  have isDirectory : directoryPlace later root id = directoryPlace disk root id := by
    rw [directoryPlace, censuses_place_extends spares.extended, directoryPlace]
  unfold access openingOf checkPlace checkDirectory
  rw [store_place_extends spares.extended, isDirectory, censuses_place_extends spares.extended,
    censuses, directory, spares.free, spares.entry_eq]

theorem of_prepare (rooted : Rooted root name above disk) (id other : CensusId) :
    Spares root id disk (disk.prepare (some (censusDirectory root other))).2 where
  extended := (disk.prepare_grows _).toExtends
  names place _ := (disk.prepare_grows _).file_at place
  free := rooted.made_place id other
  owners file _ := (disk.prepare_grows _).is_held file
  shown := by rw [(disk.prepare_grows _).file]

theorem apart_of_mem_waypoints (different : id ≠ other) {place : Location}
    (member : place ∈ waypoints disk root id) : place ≠ storePlace disk root other := by
  intro same
  simp only [waypoints, List.mem_cons, List.not_mem_nil, or_false] at member
  rcases member with isCensuses | isDirectory | isStore
  · have lengths := congrArg List.length (same.symm.trans isCensuses)
    simp only [storePlace, List.length_cons] at lengths
    omega
  · have lengths := congrArg List.length (same.symm.trans isDirectory)
    simp only [storePlace, directoryPlace, List.length_cons] at lengths
    omega
  · exact different (store_place_injective (isStore.symm.trans same))

theorem of_with_store (formed : disk.WellFormed) (known : disk.HeldFilesKnown)
    (different : id ≠ other) (free : disk.isDirectory (storePlace disk root other) = false)
    (unheld : ∀ file, disk.fileAt? (storePlace disk root other) = some file →
      disk.isHeld file = false) (store : Store) :
    Spares root id disk ((disk.withStore (storePlace disk root other) store).2.hold
      (disk.withStore (storePlace disk root other) store).1) := by
  have keeps := Disk.with_store_keeps formed free store
  have outside {place : Location} (member : place ∈ waypoints disk root id) :
      place ∉ [storePlace disk root other] := by
    rw [List.mem_singleton]
    exact apart_of_mem_waypoints different member
  have isStore : storePlace disk root id ∈ waypoints disk root id := by simp [waypoints]
  constructor
  · exact (Disk.with_store_hold_adds formed known free unheld).toExtends
  · intro place member
    rw [Disk.file_at_hold, keeps.names place (outside member)]
  · exact keeps.is_directory _
  · intro file named
    have stillNamed := named
    rw [← keeps.names _ (outside isStore)] at stillNamed
    -- No two names lead to one file, so this is not the file that comes to be owned.
    have apart := (Disk.with_store_formed formed free store).file_ne
      (Disk.with_store_named disk _ store) stillNamed (apart_of_mem_waypoints different isStore)
    rw [Bool.eq_iff_iff, Disk.is_held_hold_iff, Disk.isHeld, Disk.with_store_held, ← Disk.isHeld]
    exact ⟨fun held => held.resolve_left apart, Or.inr⟩
  · rw [Disk.file_hold, keeps.files _ (outside isStore)]

/-- A write to a file that is not in the place of the store, or that shows the same store, spares a
census. -/
theorem of_set_content (same : disk.fileAt? (storePlace disk root id) = some file →
    shownStore (some content) = shownStore (some (disk.content file))) :
    Spares root id disk (disk.setContent file content) where
  extended := Disk.extends_set_content _ _ _
  names _ _ := rfl
  free := rfl
  owners _ _ := rfl
  shown := by
    cases named : disk.fileAt? (storePlace disk root id) with
    | none =>
        have absent : (disk.setContent file content).fileAt? (storePlace disk root id) = none :=
          named
        rw [Disk.file_eq_none_iff.mpr named, Disk.file_eq_none_iff.mpr absent]
    | some found =>
        have stillNamed : (disk.setContent file content).fileAt? (storePlace disk root id) =
            some found := named
        rw [Disk.file_of_named named, Disk.file_of_named stillNamed]
        refine Disk.content_set_content_of (motive := fun written =>
          shownStore (some written) = shownStore (some (disk.content found))) rfl ?_
        intro isFile
        rw [isFile] at named ⊢
        exact same named

end Spares

variable {ledger : OpenLedger} {registry after : Registry} {census : LoadedCensus}
  {found : Except RegistryError LoadedCensus}

/-- The records of a census in its store. There are none without a store. -/
def persisted (registry : Registry) (id : CensusId) : Except StoreFault CensusTables :=
  (shownStore (registry.disk.file? (storePlace registry.disk registry.censusRoot id))).map
    Store.census

/-- A census is as it was: its records, and the set that requests to it are answered from. -/
structure Unchanged (id : CensusId) (registry after : Registry) : Prop where
  set : after.setAt id = registry.setAt id
  persisted : after.persisted id = registry.persisted id

/-- The counter of identifiers and the contents of the ledger file are as they were. -/
structure SharedKept (ledger : OpenLedger) (registry after : Registry) : Prop where
  control : after.control = registry.control
  counter : after.disk.content registry.control = registry.disk.content registry.control
  ledger : after.disk.content ledger.file = registry.disk.content ledger.file

/-- A loaded census has the store in its place open, and its path leads there. -/
structure Lodged (registry : Registry) (census : LoadedCensus) : Prop where
  prepared : registry.disk.Prepared (some (censusDirectory registry.censusRoot census.id))
  located : registry.disk.locate (censusPath registry.censusRoot census.id) =
    .ok (storePlace registry.disk registry.censusRoot census.id)
  held : registry.disk.isHeld census.file = true
  named : registry.disk.fileAt? (storePlace registry.disk registry.censusRoot census.id) =
    some census.file
  holds : ∃ store, registry.disk.content census.file = .store store

/-- The invariant of a registry beside an open ledger: the control store, the stores of the loaded
censuses and the files of the ledger are apart from one another. -/
structure Housed (name : String) (above : Location) (ledger : OpenLedger) (registry : Registry) :
    Prop where
  formed : registry.disk.WellFormed
  known : registry.disk.HeldFilesKnown
  rooted : Rooted registry.censusRoot name above registry.disk
  control_held : registry.disk.isHeld registry.control = true
  control_holds : ∃ store, registry.disk.content registry.control = .store store
  control_apart : ∀ id, registry.disk.fileAt? (storePlace registry.disk registry.censusRoot id) ≠
    some registry.control
  loaded : ∀ census ∈ registry.loaded, registry.Lodged census
  table : (registry.disk.content ledger.file).hasTable = true
  log : ∀ log, ledger.log = some log → ledger.file ≠ log ∧
    ∃ place, registry.disk.fileAt? (Ledger.logOf place) = some log

theorem Unchanged.refl (id : CensusId) (registry : Registry) : Unchanged id registry registry :=
  ⟨rfl, rfl⟩

theorem Unchanged.trans {final : Registry} (first : Unchanged id registry after)
    (second : Unchanged id after final) : Unchanged id registry final :=
  ⟨second.set.trans first.set, second.persisted.trans first.persisted⟩

theorem SharedKept.refl (ledger : OpenLedger) (registry : Registry) :
    SharedKept ledger registry registry := ⟨rfl, rfl, rfl⟩

theorem SharedKept.trans {final : Registry} (first : SharedKept ledger registry after)
    (second : SharedKept ledger after final) : SharedKept ledger registry final where
  control := second.control.trans first.control
  counter := by
    rw [← first.control, second.counter, first.control, first.counter]
  ledger := second.ledger.trans first.ledger

theorem as_store_of_shown (shown : shownStore (some content) = .ok store) :
    content.asStore = store := by
  cases content with
  | store contents => exact Except.ok.inj shown
  | ledger image => cases shown
  | raw bytes =>
      cases bytes with
      | nil => exact Except.ok.inj shown
      | cons byte rest => cases shown

theorem shown_of_table (table : content.hasTable = true) :
    shownStore (some content) = .error .invalidData := by
  cases content with
  | ledger image => rfl
  | store contents => cases table
  | raw bytes => cases table

/-- A census whose places are spared, and which is loaded as before, is as it was. -/
theorem Housed.unchanged (housed : Housed name above ledger registry)
    (housedAfter : Housed name above ledger after) (root : after.censusRoot = registry.censusRoot)
    (same : after.find? id = registry.find? id)
    (spares : Spares registry.censusRoot id registry.disk after.disk) :
    Unchanged id registry after where
  set := by
    cases found : registry.find? id with
    | none =>
        -- It would be loaded from places that have not changed.
        have rooted := housedAfter.rooted
        rw [rooted.set_at_of_absent housedAfter.formed housedAfter.known (same.trans found),
          housed.rooted.set_at_of_absent housed.formed housed.known found, root, spares.access_eq]
    | some census =>
        obtain ⟨member, isId⟩ := find_eq_some found
        -- It has the store in its place open, and what that place shows is the same.
        have lodged := housed.loaded census member
        obtain ⟨store, holds⟩ := lodged.holds
        have named := lodged.named
        rw [isId] at named
        have stillNamed := named
        rw [← spares.store_name] at stillNamed
        have shown := spares.shown
        rw [Disk.file_of_named named, Disk.file_of_named stillNamed, holds] at shown
        rw [set_at_of_found (same.trans found), set_at_of_found found]
        simp only [setOf, tablesOf, Disk.storeAt, as_store_of_shown shown, holds]
        rfl
  persisted := by
    rw [persisted, root, store_place_extends spares.extended, spares.shown, persisted]

theorem with_store_file_ne (shown : shownStore (disk.file? above) = .ok store)
    (table : (disk.content file).hasTable = true) (next : Store) :
    file ≠ (disk.withStore above next).1 := by
  intro isNew
  have same : file = (disk.fileFor above).1 := by
    rw [isNew, Disk.withStore]
  cases named : disk.fileAt? above with
  | some found =>
      rw [Disk.file_for_of_named named] at same
      simp only at same
      rw [Disk.file_of_named named, ← same, shown_of_table table] at shown
      cases shown
  | none =>
      rw [Disk.file_for_of_free named] at same
      have inRange := Disk.lt_of_table table
      rw [same] at inRange
      exact absurd inRange (Nat.lt_irrefl _)

theorem Resolution.content_of_table (resolution : Resolution registry other found after)
    (table : (registry.disk.content file).hasTable = true) :
    after.disk.content file = registry.disk.content file := by
  have grows := registry.reached_grows other
  cases resolution with
  | loaded census isFound => rfl
  | refused error opens absent reason => exact grows.content file
  | opened store set absent offered offers loads =>
      -- What is offered is a store, and a file that is made is new: neither is the ledger.
      have shown := offers.shown
      rw [← grows.file] at shown
      rw [← grows.content] at table
      rw [← grows.content]
      exact Disk.with_store_content (with_store_file_ne shown table store)

theorem Resolution.find_other (resolution : Resolution registry other found after)
    (different : id ≠ other) : after.find? id = registry.find? id := by
  cases resolution with
  | loaded census isFound => rfl
  | refused error opens absent reason => rfl
  | opened store set absent offered offers loads =>
      simp only [loadedFrom, find?, List.find?_append]
      rw [List.find?_cons_of_neg (by simpa using different.symm), List.find?_nil, Option.or_none]

theorem Resolution.spares (resolution : Resolution registry other found after)
    (housed : Housed name above ledger registry) (different : id ≠ other) :
    Spares registry.censusRoot id registry.disk after.disk := by
  have made := Spares.of_prepare housed.rooted id other
  cases resolution with
  | loaded census isFound => exact ⟨.refl _, fun _ _ => rfl, rfl, fun _ _ => rfl, rfl⟩
  | refused error opens absent reason => exact made
  | opened store set absent offered offers loads =>
      have grows := registry.reached_grows other
      have place := store_place_extends grows.toExtends registry.censusRoot other
      have free := offers.free
      have unheld : ∀ file, (registry.reached other).fileAt?
          (storePlace registry.disk registry.censusRoot other) = some file →
            (registry.reached other).isHeld file = false := fun _ => offers.unheld_reached
      refine made.trans ?_
      rw [loadedFrom]
      rw [← place] at free unheld ⊢
      exact Spares.of_with_store (Disk.prepare_well_formed housed.formed _)
        (grows.known housed.known) different free unheld store

theorem Resolution.control_apart (resolution : Resolution registry other found after)
    (housed : Housed name above ledger registry) (id : CensusId) :
    after.disk.fileAt? (storePlace registry.disk registry.censusRoot id) ≠
      some registry.control := by
  by_cases same : id = other
  · have grows := registry.reached_grows other
    have before := housed.control_apart id
    cases resolution with
    | loaded census isFound => exact before
    | refused error opens absent reason =>
        rw [← grows.file_at] at before
        exact before
    | opened store set absent offered offers loads =>
        -- The file in the place is one that nobody had open before.
        intro isControl
        have unheld : (registry.reached other).isHeld ((registry.reached other).withStore
            (storePlace registry.disk registry.censusRoot other) store).1 = false :=
          Disk.with_store_file_unheld (grows.known housed.known) fun _ => offers.unheld_reached
        simp only [loadedFrom, Disk.file_at_hold, same, Disk.with_store_named] at isControl
        rw [Option.some.inj isControl, grows.is_held, housed.control_held] at unheld
        cases unheld
  · have grown := resolution.grown housed.formed housed.known
    have apart : storePlace registry.disk registry.censusRoot id ≠
        storePlace registry.disk registry.censusRoot other :=
      fun isPlace => same (store_place_injective isPlace)
    rw [(grown.elsewhere _ apart).1]
    exact housed.control_apart id

theorem Lodged.grown (lodged : registry.Lodged census) (grown : Grown registry id after) :
    after.Lodged census where
  prepared := by
    rw [grown.root]
    exact lodged.prepared.extends grown.adds.toExtends
  located := by
    rw [grown.store_place, grown.root]
    exact Disk.locate_extends grown.adds.toExtends lodged.located
  held := (grown.adds.owned _ lodged.held).1
  named := by
    rw [grown.store_place]
    exact grown.adds.names _ _ lodged.named
  holds := by
    rw [(grown.adds.owned _ lodged.held).2]
    exact lodged.holds

theorem Offers.lodged (offers : registry.Offers id store) (formed : registry.disk.WellFormed)
    (set : IdentitySet) : (registry.loadedFrom id store set).2.Lodged
      (registry.loadedFrom id store set).1 := by
  have grows := registry.reached_grows id
  have reachedFormed : (registry.reached id).WellFormed := Disk.prepare_well_formed formed _
  have named := Disk.with_store_named (registry.reached id)
    (storePlace registry.disk registry.censusRoot id) store
  have keeps := Disk.with_store_keeps reachedFormed offers.free store
  have extended : (registry.reached id).Extends (registry.loadedFrom id store set).2.disk :=
    (keeps.toWithin.owned _).extended
  have place : storePlace (registry.loadedFrom id store set).2.disk registry.censusRoot id =
      storePlace registry.disk registry.censusRoot id :=
    store_place_extends (grows.toExtends.trans extended) _ _
  have holds := Disk.with_store_holds reachedFormed offers.free store
  rw [Disk.file_of_named named] at holds
  constructor
  · exact (Disk.prepared_of_prepare offers.prepared).extends extended
  · have located := Disk.locate_extends extended offers.located
    rw [← place] at located
    exact located
  · exact Disk.is_held_hold_iff.mpr (Or.inl rfl)
  · simp only [loadedFrom] at place ⊢
    rw [place]
    exact named
  · exact ⟨store, Option.some.inj holds⟩

theorem Resolution.housed (resolution : Resolution registry other found after)
    (housed : Housed name above ledger registry) : Housed name above ledger after := by
  have grown := resolution.grown housed.formed housed.known
  constructor
  · exact grown.formed
  · exact grown.known
  · rw [grown.root]
    exact housed.rooted.extends grown.adds.toExtends
  · rw [grown.control]
    exact (grown.adds.owned _ housed.control_held).1
  · rw [grown.control, (grown.adds.owned _ housed.control_held).2]
    exact housed.control_holds
  · intro id
    rw [grown.store_place, grown.control]
    exact resolution.control_apart housed id
  · intro census member
    have old (before : census ∈ registry.loaded) : after.Lodged census :=
      (housed.loaded census before).grown grown
    cases resolution with
    | loaded census isFound => exact old member
    | refused error opens absent reason => exact old member
    | opened store set absent offered offers loads =>
        rcases List.mem_append.mp member with before | isNew
        · exact old before
        · rw [List.mem_singleton.mp isNew]
          exact offers.lodged housed.formed set
  · rw [resolution.content_of_table housed.table]
    exact housed.table
  · intro log isLog
    obtain ⟨apart, place, named⟩ := housed.log log isLog
    exact ⟨apart, place, grown.adds.names _ _ named⟩

theorem Housed.resolution (housed : Housed name above ledger registry) (id : CensusId) :
    Resolution registry id (registry.resolve id).1 (registry.resolve id).2 :=
  resolve_cases housed.formed housed.known id

theorem Housed.resolve (housed : Housed name above ledger registry) (id : CensusId) :
    Housed name above ledger (registry.resolve id).2 := (housed.resolution id).housed housed

theorem Resolution.find_self (resolution : Resolution registry id (.ok census) after) :
    after.find? id = some census := by
  generalize isOk : Except.ok (ε := RegistryError) census = answer at resolution
  cases resolution with
  | loaded found isFound =>
      rw [Except.ok.inj isOk]
      exact isFound
  | refused error opens absent reason => exact absurd isOk (by simp)
  | opened store set absent offered offers loads =>
      rw [Except.ok.inj isOk]
      rw [find?] at absent
      simp only [loadedFrom, find?, List.find?_append, absent]
      rw [List.find?_cons_of_pos (by simp)]
      rfl

theorem set_at_of_resolve (resolved : (registry.resolve id).1 = .ok census) :
    registry.setAt id = .ok ((registry.resolve id).2.setOf census) := by
  unfold setAt query
  cases resolving : registry.resolve id with
  | mk answer after =>
      rw [resolving] at resolved
      simp only at resolved
      rw [resolved]

theorem set_at_of_refused {error : RegistryError}
    (refused : (registry.resolve id).1 = .error error) : registry.setAt id = .error error := by
  unfold setAt query
  cases resolving : registry.resolve id with
  | mk answer after =>
      rw [resolving] at refused
      simp only at refused
      rw [refused]

/-- A store that is made for a census has no records, and one that is there keeps them. -/
theorem Resolution.persisted_self (resolution : Resolution registry id found after)
    (formed : registry.disk.WellFormed) (grown : Grown registry id after) :
    after.persisted id = registry.persisted id := by
  rw [persisted, grown.store_place, persisted]
  cases resolution with
  | loaded census isFound => rfl
  | refused error opens absent reason => rw [(registry.reached_grows id).file]
  | opened store set absent offered offers loads =>
      rw [offers.holds formed set, offers.shown]
      rfl

theorem Housed.unchanged_resolve_self (housed : Housed name above ledger registry)
    (id : CensusId) : Unchanged id registry (registry.resolve id).2 := by
  have resolution := housed.resolution id
  have housedAfter := housed.resolve id
  have grown := resolution.grown housed.formed housed.known
  cases resolved : (registry.resolve id).1 with
  | error error =>
      rw [resolved] at resolution
      -- Nothing was loaded, and only directories were made.
      obtain ⟨opens, isAfter⟩ := resolution.of_error
      rw [isAfter] at housedAfter ⊢
      exact housed.unchanged housedAfter rfl rfl (Spares.of_prepare housed.rooted id id)
  | ok census =>
      -- From now on the census is found, and it is the one that would have been loaded.
      have stored := resolution.persisted_self housed.formed grown
      rw [resolved] at resolution
      refine ⟨?_, stored⟩
      rw [set_at_of_found resolution.find_self, set_at_of_resolve resolved]

/-- Resolving a census changes none. -/
theorem Housed.unchanged_resolve (housed : Housed name above ledger registry)
    (id other : CensusId) : Unchanged id registry (registry.resolve other).2 := by
  by_cases same : id = other
  · rw [same]
    exact housed.unchanged_resolve_self other
  · have resolution := housed.resolution other
    have grown := resolution.grown housed.formed housed.known
    exact housed.unchanged (housed.resolve other) grown.root (resolution.find_other same)
      (resolution.spares housed same)

theorem Housed.shared_resolve (housed : Housed name above ledger registry) (id : CensusId) :
    SharedKept ledger registry (registry.resolve id).2 := by
  have resolution := housed.resolution id
  have grown := resolution.grown housed.formed housed.known
  exact ⟨grown.control, (grown.adds.owned _ housed.control_held).2,
    resolution.content_of_table housed.table⟩

/-- A write by which no store that somebody has open ceases to be one, nor the ledger to have its
table, keeps a registry apart from its ledger. -/
theorem Housed.write (housed : Housed name above ledger registry) {kept : List LoadedCensus}
    (same : ∀ census ∈ kept, ∃ old ∈ registry.loaded, old.id = census.id ∧ old.file = census.file)
    (stores : registry.disk.isHeld file = true →
      (∃ store, registry.disk.content file = .store store) → ∃ store, content = .store store)
    (table : ledger.file = file → content.hasTable = true) :
    Housed name above ledger
      { registry with disk := registry.disk.setContent file content, loaded := kept } := by
  have still {other : FileId} (held : registry.disk.isHeld other = true)
      (holds : ∃ store, registry.disk.content other = .store store) :
      ∃ store, (registry.disk.setContent file content).content other = .store store := by
    refine Disk.content_set_content_of (motive := fun found => ∃ store, found = .store store)
      holds ?_
    intro isFile
    rw [isFile] at held holds
    exact stores held holds
  have extended := Disk.extends_set_content registry.disk file content
  constructor
  · exact housed.formed.set_content
  · intro other held
    have inRange := housed.known other held
    simpa [Disk.setContent] using inRange
  · exact housed.rooted.extends extended
  · exact housed.control_held
  · exact still housed.control_held housed.control_holds
  · exact housed.control_apart
  · intro census member
    obtain ⟨old, oldMember, sameId, sameFile⟩ := same census member
    have lodged := housed.loaded old oldMember
    obtain ⟨prepared, located, held, named, holds⟩ := lodged
    rw [sameFile] at held holds
    rw [sameId] at prepared located named
    rw [sameFile] at named
    exact ⟨prepared.extends extended, Disk.locate_extends extended located, held, named,
      still held holds⟩
  · exact Disk.content_set_content_of (motive := fun found => found.hasTable = true) housed.table
      table
  · exact housed.log

theorem ne_of_table (table : (disk.content file).hasTable = true) {written : FileId}
    (holds : ∃ store, disk.content written = .store store) : file ≠ written := by
  intro same
  obtain ⟨store, holds⟩ := holds
  rw [same, holds] at table
  cases table

theorem Housed.put_set (housed : Housed name above ledger registry)
    (member : census ∈ registry.loaded) (set : IdentitySet) :
    Housed name above ledger (registry.putSet census set) := by
  apply housed.write
  · intro other otherMember
    obtain ⟨old, oldMember, sameId, sameFile, -⟩ := mem_put_set otherMember
    exact ⟨old, oldMember, sameId, sameFile⟩
  · exact fun _ _ => ⟨_, rfl⟩
  · intro isFile
    exact absurd isFile (ne_of_table housed.table (housed.loaded census member).holds)

theorem find_put_set (registry : Registry) (census : LoadedCensus) (set : IdentitySet)
    (id : CensusId) : (registry.putSet census set).find? id = (registry.find? id).map fun other =>
      if other.id = census.id then { other with sealed := set.sealed } else other := by
  have sameId : ((fun other => decide (other.id = id)) ∘ fun other : LoadedCensus =>
      if other.id = census.id then { other with sealed := set.sealed } else other) =
        fun other => decide (other.id = id) := by
    funext other
    rw [Function.comp]
    split <;> rfl
  rw [putSet, find?, List.find?_map, sameId, ← find?]

theorem find_put_set_other (set : IdentitySet) (different : id ≠ census.id) :
    (registry.putSet census set).find? id = registry.find? id := by
  rw [find_put_set]
  cases found : registry.find? id with
  | none => rfl
  | some other =>
      have isId := (find_eq_some found).2
      rw [Option.map_some, if_neg (by rw [isId]; exact different)]

theorem Housed.unchanged_put_set (housed : Housed name above ledger registry)
    (member : census ∈ registry.loaded) (set : IdentitySet) (different : id ≠ census.id) :
    Unchanged id registry (registry.putSet census set) := by
  apply housed.unchanged (housed.put_set member set) rfl (find_put_set_other set different)
  apply Spares.of_set_content
  intro named
  exact absurd (store_place_injective (housed.formed.single _ _ _ named
    (housed.loaded census member).named)) different

theorem Housed.shared_put_set (housed : Housed name above ledger registry)
    (member : census ∈ registry.loaded) (set : IdentitySet) :
    SharedKept ledger registry (registry.putSet census set) := by
  have lodged := housed.loaded census member
  refine ⟨rfl, Disk.content_set_content_of_ne ?_, Disk.content_set_content_of_ne ?_⟩
  · intro isControl
    have named := lodged.named
    rw [← isControl] at named
    exact housed.control_apart census.id named
  · exact ne_of_table housed.table lodged.holds

theorem Housed.write_counter (housed : Housed name above ledger registry) (next : CensusId) :
    Housed name above ledger { registry with
      disk := registry.disk.setStore registry.control
        (Counter.write next (registry.disk.storeAt registry.control)) } := by
  apply housed.write
  · exact fun census member => ⟨census, member, rfl, rfl⟩
  · exact fun _ _ => ⟨_, rfl⟩
  · intro isFile
    exact absurd isFile (ne_of_table housed.table housed.control_holds)

theorem Housed.unchanged_write_counter (housed : Housed name above ledger registry)
    (id next : CensusId) : Unchanged id registry { registry with
      disk := registry.disk.setStore registry.control
        (Counter.write next (registry.disk.storeAt registry.control)) } := by
  apply housed.unchanged (housed.write_counter next) rfl rfl
  apply Spares.of_set_content
  intro named
  exact absurd named (housed.control_apart id)

theorem Housed.put_rows (housed : Housed name above ledger registry) (rows : List VoteRow)
    (id : CensusId) :
    Housed name above ledger { registry with disk := ledger.putRows registry.disk rows } ∧
      Unchanged id registry { registry with disk := ledger.putRows registry.disk rows } := by
  have noStore : ¬∃ store, registry.disk.content ledger.file = .store store := by
    intro holds
    exact ne_of_table housed.table holds rfl
  have written : Housed name above ledger { registry with
      disk := registry.disk.setContent ledger.file
        ((registry.disk.content ledger.file).withRows rows) } := by
    apply housed.write
    · exact fun census member => ⟨census, member, rfl, rfl⟩
    · exact fun _ holds => absurd holds noStore
    · exact fun _ => rfl
  have unchanged : Unchanged id registry { registry with
      disk := registry.disk.setContent ledger.file
        ((registry.disk.content ledger.file).withRows rows) } := by
    apply housed.unchanged written rfl rfl
    -- The ledger may lie in the place of a store; it shows none, whatever its rows are.
    apply Spares.of_set_content
    intro _
    rw [shown_of_table housed.table]
    rfl
  rw [OpenLedger.putRows, OpenLedger.markLog]
  split
  · exact ⟨written, unchanged⟩
  · rename_i log isLog
    split
    · exact ⟨written, unchanged⟩
    · rename_i unheld
      obtain ⟨apart, place, named⟩ := written.log log isLog
      have marked : Housed name above ledger { registry with
          disk := (registry.disk.setContent ledger.file
            ((registry.disk.content ledger.file).withRows rows)).setContent log
              (.raw OpenLedger.logMark) } := by
        apply written.write
        · exact fun census member => ⟨census, member, rfl, rfl⟩
        · exact fun held => absurd held unheld
        · exact fun isFile => absurd isFile apart
      refine ⟨marked, unchanged.trans (written.unchanged marked rfl rfl ?_)⟩
      apply Spares.of_set_content
      intro isStore
      -- The mark goes to a companion of the ledger, and no store has the name of one.
      have isPlace := written.formed.single _ _ _ isStore named
      have member := Ledger.log_mem_companions place
      rw [← isPlace] at member
      have ending := Ledger.last_char_of_companion member
      exact absurd ending (by decide)

end Registry

end CensusNode
