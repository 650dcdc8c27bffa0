import CensusNode.Proofs.Census.Records
import CensusNode.Proofs.Registry.Growth

/-!
The allocation of census identifiers. Whatever happens to a registry between two allocations,
requests to any census, allocations that fail, restarts, and changes that others make to the disk
around the control store, the identifiers are granted one after another from the counter on. An
allocation that fails leaves the counter, the loaded censuses and every file as they were, and the
last identifier is never granted, so that the counter never starts over.
-/

namespace CensusNode

namespace Registry

def restart (registry : Registry) (path : String) : Option Registry :=
  match openAt registry.close path registry.censusRoot with
  | (.ok again, _) => some again
  | (.error _, _) => none

/-- A disk on which others may have changed anything but the control store of a registry, its place
and the fact that the registry has it open. -/
structure SparesControl (path : String) (registry : Registry) (disk : Disk) : Prop where
  formed : disk.WellFormed
  known : disk.HeldFilesKnown
  held : disk.isHeld registry.control = true
  prepared : disk.Prepared (Path.namedParent? path)
  located : ∀ place, registry.disk.locate path = .ok place → disk.locate path = .ok place
  named : ∀ place, registry.disk.fileAt? place = some registry.control →
    disk.fileAt? place = some registry.control
  content : disk.content registry.control = registry.disk.content registry.control

end Registry

/-- What happens in the life of a registry: an allocation with its answer, a request to a census, a
restart, or a change of the disk by others. -/
inductive RegistryEvent where
  | allocated (answer : Except RegistryError CensusId)
  | requested (request : CensusRequest)
  | restarted
  | disturbed (disk : Disk)

namespace RegistryEvent

def granted? : RegistryEvent → Option CensusId
  | allocated (.ok id) => some id
  | _ => none

end RegistryEvent

namespace Registry

inductive Life (path : String) : Registry → List RegistryEvent → Registry → Prop where
  | rest (registry : Registry) : Life path registry [] registry
  | allocated {registry last : Registry} {events : List RegistryEvent}
      (later : Life path registry.newCensus.2 events last) :
      Life path registry (.allocated registry.newCensus.1 :: events) last
  | requested {registry last : Registry} {events : List RegistryEvent} (request : CensusRequest)
      (later : Life path (registry.serve request) events last) :
      Life path registry (.requested request :: events) last
  | restarted {registry again last : Registry} {events : List RegistryEvent}
      (reopened : registry.restart path = some again) (later : Life path again events last) :
      Life path registry (.restarted :: events) last
  | disturbed {registry last : Registry} {events : List RegistryEvent} (disk : Disk)
      (spares : SparesControl path registry disk)
      (later : Life path { registry with disk } events last) :
      Life path registry (.disturbed disk :: events) last

/-- The invariant of a registry whose counter stands at an identifier. -/
structure Counts (path : String) (next : CensusId) (registry : Registry) : Prop where
  formed : registry.disk.WellFormed
  known : registry.disk.HeldFilesKnown
  held : registry.disk.isHeld registry.control = true
  loaded : ∀ census ∈ registry.loaded, census.file ≠ registry.control
  prepared : registry.disk.Prepared (Path.namedParent? path)
  placed : ∃ place, registry.disk.locate path = .ok place ∧
    registry.disk.fileAt? place = some registry.control
  counter : ∃ store, registry.disk.content registry.control = .store store ∧
    Counter.peek store = .ok next

variable {path : String} {next id : CensusId} {registry after last : Registry} {disk : Disk}
  {census : LoadedCensus}

theorem Counts.next_id (counts : Counts path next registry) : registry.nextId = .ok next := by
  obtain ⟨store, content, peeked⟩ := counts.counter
  have isStore : registry.disk.storeAt registry.control = store := by
    rw [Disk.storeAt, content]
    rfl
  rw [nextId, isStore, peeked]

theorem Counts.grown (counts : Counts path next registry) (grown : Grown registry id after) :
    Counts path next after where
  formed := grown.formed
  known := grown.known
  held := by
    rw [grown.control]
    exact (grown.adds.owned _ counts.held).1
  loaded census member := by
    rw [grown.control]
    rcases grown.loaded census member with before | ⟨-, unheld, -⟩
    · exact counts.loaded census before
    · intro same
      rw [same, counts.held] at unheld
      cases unheld
  prepared := counts.prepared.extends grown.adds.toExtends
  placed := by
    obtain ⟨place, located, named⟩ := counts.placed
    rw [grown.control]
    exact ⟨place, Disk.locate_extends grown.adds.toExtends located, grown.adds.names _ _ named⟩
  counter := by
    rw [grown.control, (grown.adds.owned _ counts.held).2]
    exact counts.counter

theorem Counts.resolve (counts : Counts path next registry) (id : CensusId) :
    Counts path next (registry.resolve id).2 :=
  counts.grown (resolve_grown counts.formed counts.known id)

theorem Counts.put_set (counts : Counts path next registry) (member : census ∈ registry.loaded)
    (set : IdentitySet) : Counts path next (registry.putSet census set) where
  formed := counts.formed.set_content
  known file held := by
    have inRange := counts.known file held
    simpa [putSet, Disk.setStore, Disk.setContent] using inRange
  held := counts.held
  loaded other otherMember := by
    obtain ⟨old, oldMember, -, sameFile, -⟩ := mem_put_set otherMember
    rw [← sameFile]
    exact counts.loaded old oldMember
  prepared := counts.prepared.extends (Disk.extends_set_content _ _ _)
  placed := by
    obtain ⟨place, located, named⟩ := counts.placed
    exact ⟨place, Disk.locate_extends (Disk.extends_set_content _ _ _) located, named⟩
  counter := by
    have same : (registry.putSet census set).disk.content registry.control =
        registry.disk.content registry.control :=
      Disk.content_set_content_of_ne (counts.loaded census member).symm
    change ∃ store, (registry.putSet census set).disk.content registry.control = _ ∧ _
    rw [same]
    exact counts.counter

theorem Counts.serve (counts : Counts path next registry) (request : CensusRequest) :
    Counts path next (registry.serve request) := by
  apply serve_keeps request counts
  · intro before counts
    exact counts.resolve request.id
  · intro _ before census set counts member _
    exact counts.put_set member set

theorem Counts.disturbed (counts : Counts path next registry)
    (spares : SparesControl path registry disk) : Counts path next { registry with disk } where
  formed := spares.formed
  known := spares.known
  held := spares.held
  loaded := counts.loaded
  prepared := spares.prepared
  placed := by
    obtain ⟨place, located, named⟩ := counts.placed
    exact ⟨place, spares.located place located, spares.named place named⟩
  counter := by
    rw [spares.content]
    exact counts.counter

/-- An allocation refused leaves the counter, the loaded censuses and all files as they were. -/
structure Untouched (registry after : Registry) : Prop where
  counter : after.nextId = registry.nextId
  loaded : after.loaded = registry.loaded
  names : after.disk.names = registry.disk.names
  contents : after.disk.contents = registry.disk.contents

theorem next_pair_of_peek {store : Store} (peeked : Counter.peek store = .ok next) :
    Counter.nextPair store =
      if next.value.toNat = CensusId.limit then .error (.exhausted next)
      else .ok (next, ⟨next.value + 1⟩) := by
  rw [Counter.nextPair, Counter.read_eq_ok_iff.mpr peeked]
  simp only [bind, Except.bind, Counter.successor, CensusId.next?]
  by_cases atLimit : next.value.toNat = CensusId.limit
  · rw [if_pos atLimit, if_pos atLimit]
  · rw [if_neg atLimit, if_neg atLimit]

theorem Counts.next_pair (counts : Counts path next registry) :
    Counter.nextPair (registry.disk.storeAt registry.control) =
      if next.value.toNat = CensusId.limit then .error (.exhausted next)
      else .ok (next, ⟨next.value + 1⟩) := by
  obtain ⟨store, content, peeked⟩ := counts.counter
  have isStore : registry.disk.storeAt registry.control = store := by
    rw [Disk.storeAt, content]
    rfl
  rw [isStore, next_pair_of_peek peeked]

theorem peek_write (next : CensusId) (store : Store) :
    Counter.peek (Counter.write next store) = .ok next := Counter.read_write next store

theorem Counts.write (counts : Counts path next registry) (other : CensusId) :
    Counts path other { registry with
      disk := registry.disk.setStore registry.control
        (Counter.write other (registry.disk.storeAt registry.control)) } where
  formed := counts.formed.set_content
  known file held := by
    have inRange := counts.known file held
    simpa [Disk.setStore, Disk.setContent] using inRange
  held := counts.held
  loaded := counts.loaded
  prepared := counts.prepared.extends (Disk.extends_set_content _ _ _)
  placed := by
    obtain ⟨place, located, named⟩ := counts.placed
    exact ⟨place, Disk.locate_extends (Disk.extends_set_content _ _ _) located, named⟩
  counter := ⟨_, Disk.content_set_content_self (counts.known _ counts.held), peek_write _ _⟩

/-- With the last identifier in the counter nothing is allocated and nothing is loaded. -/
theorem Counts.exhausted (counts : Counts path next registry)
    (atLimit : next.value.toNat = CensusId.limit) :
    registry.newCensus = (.error (.counter (.exhausted next)), registry) := by
  have pair := counts.next_pair
  rw [if_pos atLimit] at pair
  rw [newCensus, pair]

/-- Below the limit an allocation grants what is in the counter and moves the counter on, or the
census cannot be loaded and the registry is as before. -/
theorem Counts.new_census (counts : Counts path next registry)
    (below : next.value.toNat ≠ CensusId.limit) :
    (∃ error, registry.newCensus.1 = .error error ∧ Untouched registry registry.newCensus.2 ∧
      Counts path next registry.newCensus.2) ∨
    registry.newCensus.1 = .ok next ∧ Counts path ⟨next.value + 1⟩ registry.newCensus.2 := by
  have pair := counts.next_pair
  rw [if_neg below] at pair
  have after := counts.resolve next
  have resolution := resolve_cases counts.formed counts.known next
  have control := (resolve_grown counts.formed counts.known next).control
  simp only [newCensus, pair]
  revert after resolution control
  cases registry.resolve next with
  | mk answer later =>
      intro after resolution control
      cases answer with
      | error error =>
          obtain ⟨opens, isLater⟩ := resolution.of_error
          have grows := registry.reached_grows next
          have same := after.next_id.trans counts.next_id.symm
          simp only at isLater
          subst isLater
          exact Or.inl ⟨error, rfl, ⟨same, rfl, grows.names, grows.contents⟩, after⟩
      | ok census => exact Or.inr ⟨rfl, after.write ⟨next.value + 1⟩⟩

theorem open_store_in_of_named {directory : Option String} {location : Location} {file : FileId}
    {store : Store} (formed : disk.WellFormed) (prepared : disk.Prepared directory)
    (located : disk.locate path = .ok location) (named : disk.fileAt? location = some file)
    (unheld : disk.isHeld file = false) (content : disk.content file = .store store) :
    openStoreIn disk directory path = (.ok file, disk.hold file) := by
  have opening := open_store_file_spec disk file unheld
  have same := disk.set_content_same file
  rw [content] at opening same
  simp only [shownStore, Disk.setStore, same] at opening
  simp only [openStoreIn, prepared.prepare, Disk.openStore, located, formed.not_directory named,
    Bool.false_eq_true, if_false, Disk.file_for_of_named named, opening]

def started (disk : Disk) (location : Location) (store : Store) (root : String) : Registry where
  disk := (disk.withStore location store).2.hold (disk.withStore location store).1
  control := (disk.withStore location store).1
  censusRoot := root
  loaded := []
  storeOpens := 0

theorem open_at_eq_ok {root : String} {later : Disk} (formed : disk.WellFormed)
    (known : disk.HeldFilesKnown) (opened : openAt disk path root = (.ok registry, later)) :
    ∃ location store next seeded, Available disk (Path.namedParent? path) path location store ∧
      Counter.seed store = .ok (next, seeded) ∧
      registry = started (disk.prepare (Path.namedParent? path)).2 location seeded root ∧
      later = registry.disk := by
  rcases open_store_in_cases known (Path.namedParent? path) path with
    ⟨error, -, refused⟩ | ⟨-, refused⟩ | ⟨location, store, available, -, isOpen⟩
  · rw [openAt, refused] at opened
    cases opened
  · rw [openAt, refused] at opened
    cases opened
  · have contents := Disk.with_store_store_at
      (Disk.prepare_well_formed formed (Path.namedParent? path)) available.free store
    cases seeding : Counter.seed store with
    | error error =>
        simp only [openAt, isOpen, Disk.store_at_hold, contents, seeding] at opened
        cases opened
    | ok pair =>
        obtain ⟨next, seeded⟩ := pair
        have again := Disk.with_store_again (disk.prepare (Path.namedParent? path)).2 location store
          seeded
        simp only [openAt, isOpen, Disk.store_at_hold, contents, seeding, Disk.set_store_hold,
          again] at opened
        obtain ⟨isRegistry, isLater⟩ := Prod.mk.inj opened
        refine ⟨location, store, next, seeded, available, seeding, ?_, ?_⟩
        · rw [started, Disk.with_store_file_eq _ location seeded store]
          exact (Except.ok.inj isRegistry).symm
        · rw [← isLater, ← Except.ok.inj isRegistry]

theorem started_counts {location : Location} {seeded : Store} (root : String)
    (formed : disk.WellFormed) (known : disk.HeldFilesKnown)
    (prepared : disk.Prepared (Path.namedParent? path)) (located : disk.locate path = .ok location)
    (free : disk.isDirectory location = false) (peeked : Counter.peek seeded = .ok next) :
    Counts path next (started disk location seeded root) := by
  have extended : disk.Extends (started disk location seeded root).disk :=
    ((Disk.with_store_keeps formed free seeded).toWithin.owned _).extended
  constructor
  · exact (Disk.with_store_formed formed free seeded).owned _
  · exact Disk.with_store_hold_known formed known free
  · exact Disk.is_held_hold_iff.mpr (Or.inl rfl)
  · intro census member
    cases member
  · exact prepared.extends extended
  · exact ⟨location, Disk.locate_extends extended located,
      Disk.with_store_named disk location seeded⟩
  · have holds := Disk.with_store_holds formed free seeded
    rw [Disk.file_of_named (Disk.with_store_named disk location seeded)] at holds
    exact ⟨seeded, Option.some.inj holds, peeked⟩

theorem Counts.of_open_at {root : String} {later : Disk} (formed : disk.WellFormed)
    (known : disk.HeldFilesKnown) (opened : openAt disk path root = (.ok registry, later)) :
    ∃ next, Counts path next registry := by
  obtain ⟨location, store, next, seeded, available, seeding, isRegistry, -⟩ :=
    open_at_eq_ok formed known opened
  have grows := disk.prepare_grows (Path.namedParent? path)
  have peeked := Counter.read_eq_ok_iff.mp (Counter.seed_spec seeding)
  rw [isRegistry]
  exact ⟨next, started_counts root (Disk.prepare_well_formed formed _) (grows.known known)
    (Disk.prepared_of_prepare available.prepared) available.located available.free peeked⟩

/-- A control store that has a counter is found by whoever opens it, and stays as it is. -/
theorem open_at_of_named {location : Location} {file : FileId} {store : Store} (root : String)
    (formed : disk.WellFormed) (prepared : disk.Prepared (Path.namedParent? path))
    (located : disk.locate path = .ok location) (named : disk.fileAt? location = some file)
    (unheld : disk.isHeld file = false) (content : disk.content file = .store store)
    (peeked : Counter.peek store = .ok next) :
    openAt disk path root = (.ok ⟨disk.hold file, file, root, [], 0⟩, disk.hold file) := by
  have isOpen := open_store_in_of_named formed prepared located named unheld content
  have contents : disk.storeAt file = store := by
    rw [Disk.storeAt, content]
    rfl
  have seeding := Counter.seed_of_readable (Counter.read_eq_ok_iff.mpr peeked)
  have same : disk.setStore file store = disk := by
    have same := disk.set_content_same file
    rwa [content] at same
  simp only [openAt, isOpen, Disk.store_at_hold, contents, seeding, Disk.set_store_hold, same]

theorem close_eq (registry : Registry) :
    ∃ files, registry.close = registry.disk.owned files ∧
      ∀ file ∈ files, registry.disk.isHeld file = true ∧
        file ∉ registry.control :: registry.loaded.map LoadedCensus.file := by
  refine ⟨_, Disk.release_all _ _, ?_⟩
  intro file member
  obtain ⟨held, outside⟩ := List.mem_filter.mp member
  rw [decide_eq_true_eq] at outside
  rw [Disk.isHeld, List.contains_iff_mem]
  exact ⟨held, outside⟩

/-- A registry that was opened again: no census is loaded, and nothing on the disk has changed but
the owners of files. -/
def reopened (registry : Registry) (files : List FileId) : Registry :=
  { registry with disk := registry.disk.owned files, loaded := [], storeOpens := 0 }

/-- A restart always succeeds and leaves the counter where it was. -/
theorem Counts.restart (counts : Counts path next registry) :
    ∃ files, registry.restart path = some (registry.reopened files) ∧
      Counts path next (registry.reopened files) := by
  obtain ⟨place, located, named⟩ := counts.placed
  obtain ⟨store, content, peeked⟩ := counts.counter
  obtain ⟨files, isClosed, owned⟩ := registry.close_eq
  have extended (owners : List FileId) : registry.disk.Extends (registry.disk.owned owners) :=
    ⟨rfl, fun _ isDirectory => isDirectory⟩
  have unheld : (registry.disk.owned files).isHeld registry.control = false := by
    rw [Disk.isHeld, List.contains_eq_mem, decide_eq_false_iff_not]
    exact fun member => (owned _ member).2 List.mem_cons_self
  have isOpen := open_at_of_named registry.censusRoot (counts.formed.owned files)
    (counts.prepared.extends (extended files)) (Disk.locate_extends (extended files) located) named
    unheld content peeked
  refine ⟨registry.control :: files, ?_, ?_⟩
  · rw [Registry.restart, isClosed, isOpen]
    rfl
  · constructor
    · exact counts.formed.owned _
    · intro file held
      apply counts.known
      rw [Disk.isHeld, List.contains_iff_mem] at held
      rcases List.mem_cons.mp held with isControl | before
      · rw [isControl]
        exact counts.held
      · exact (owned file before).1
    · rw [Disk.isHeld, List.contains_iff_mem]
      exact List.mem_cons_self
    · intro census member
      cases member
    · exact counts.prepared.extends (extended _)
    · exact ⟨place, Disk.locate_extends (extended _) located, named⟩
    · exact ⟨store, content, peeked⟩

theorem Counts.after_allocation (counts : Counts path next registry) :
    (∃ error, registry.newCensus.1 = .error error ∧ Untouched registry registry.newCensus.2 ∧
      Counts path next registry.newCensus.2) ∨
    registry.newCensus.1 = .ok next ∧ ∃ after, after.value.toNat = next.value.toNat + 1 ∧
      Counts path after registry.newCensus.2 := by
  -- The last identifier has no successor, so it is never granted.
  by_cases atLimit : next.value.toNat = CensusId.limit
  · rw [counts.exhausted atLimit]
    exact Or.inl ⟨_, rfl, ⟨rfl, rfl, rfl, rfl⟩, counts⟩
  · rcases counts.new_census atLimit with failed | ⟨granted, after⟩
    · exact Or.inl failed
    · have bound := next.value.toNat_lt
      have advanced : (next.value + 1).toNat = next.value.toNat + 1 := by
        rw [CensusId.limit] at atLimit
        rw [UInt64.toNat_add, UInt64.toNat_one, Nat.mod_eq_of_lt]
        omega
      exact Or.inr ⟨granted, _, advanced, after⟩

def grants (events : List RegistryEvent) : List CensusId :=
  events.filterMap RegistryEvent.granted?

theorem Counts.life {events : List RegistryEvent} (counts : Counts path next registry)
    (life : Life path registry events last) :
    (grants events).map (fun id => id.value.toNat) =
        List.range' next.value.toNat (grants events).length ∧
      ∃ after, Counts path after last ∧
        after.value.toNat = next.value.toNat + (grants events).length := by
  -- The counter stays general: each event keeps it, or grants what it stands at and moves it by one.
  induction life generalizing next with
  | rest registry => exact ⟨rfl, next, counts, rfl⟩
  | @allocated registry last events later induction =>
      rcases counts.after_allocation with ⟨error, failed, -, after⟩ | ⟨granted, after, isNext, counts⟩
      · have same : grants (.allocated registry.newCensus.1 :: events) = grants events := by
          rw [failed]
          rfl
        rw [same]
        exact induction after
      · have more : grants (.allocated registry.newCensus.1 :: events) = next :: grants events := by
          rw [granted]
          rfl
        obtain ⟨numbers, final, countsLast, isFinal⟩ := induction counts
        rw [more, List.map_cons, numbers, isNext, List.length_cons, List.range'_succ]
        exact ⟨rfl, final, countsLast, by omega⟩
  | requested request later induction => exact induction (counts.serve request)
  | restarted reopened later induction =>
      obtain ⟨files, isAgain, after⟩ := counts.restart
      rw [reopened] at isAgain
      rw [Option.some.inj isAgain] at induction
      exact induction after
  | disturbed disk spares later induction => exact induction (counts.disturbed spares)

/-- The identifiers granted in a life follow one another from the first on, and the counter stands
right after them. -/
structure Consecutive (path : String) (first : CensusId) (events : List RegistryEvent)
    (last : Registry) : Prop where
  granted : (grants events).map (fun id => id.value.toNat) =
    List.range' first.value.toNat (grants events).length
  next : ∃ next, last.nextId = .ok next ∧
    next.value.toNat = first.value.toNat + (grants events).length
  failing : ∀ error, last.newCensus.1 = .error error → Untouched last last.newCensus.2
  /-- With the last identifier in the counter an allocation fails before anything is loaded. -/
  exhausted : ∀ top, last.nextId = .ok top → top.value.toNat = CensusId.limit →
    last.newCensus = (.error (.counter (.exhausted top)), last)
  reopens : ∃ again, last.restart path = some again

/-- Identifiers are granted consecutively, whatever else happens to a registry that could be opened
on a well-formed disk. -/
theorem identifiers_are_consecutive {before : Disk} {root : String} {first : CensusId}
    {events : List RegistryEvent} (formed : before.WellFormed) (known : before.HeldFilesKnown)
    (opened : openAt before path root = (.ok registry, disk))
    (counter : registry.nextId = .ok first) (life : Life path registry events last) :
    Consecutive path first events last := by
  obtain ⟨next, counts⟩ := Counts.of_open_at formed known opened
  have isFirst := counts.next_id
  rw [counter] at isFirst
  rw [← Except.ok.inj isFirst] at counts
  obtain ⟨numbers, after, countsLast, isAfter⟩ := counts.life life
  constructor
  · exact numbers
  · exact ⟨after, countsLast.next_id, isAfter⟩
  · intro error failed
    rcases countsLast.after_allocation with ⟨_, -, untouched, -⟩ | ⟨granted, -⟩
    · exact untouched
    · rw [granted] at failed
      cases failed
  · intro top isTop atLimit
    have same := countsLast.next_id
    rw [isTop] at same
    rw [Except.ok.inj same] at atLimit ⊢
    exact countsLast.exhausted atLimit
  · obtain ⟨files, reopened, -⟩ := countsLast.restart
    exact ⟨_, reopened⟩

theorem Counts.spares_unlink (counts : Counts path next registry) {place : Location}
    (other : registry.disk.fileAt? place ≠ some registry.control) :
    SparesControl path registry (registry.disk.unlink place) where
  formed := counts.formed.unlink
  known := counts.known
  held := counts.held
  prepared := counts.prepared.extends (Disk.extends_unlink _ _)
  located _ located := Disk.locate_extends (Disk.extends_unlink _ _) located
  named control named := by
    rw [Disk.file_at_unlink_of_ne, named]
    intro same
    rw [same] at named
    exact other named
  content := rfl

def blockedDisk : Disk := (Disk.nothing.create ["1", "censuses"] FileContent.empty).2

def unblocked (registry : Registry) : Registry :=
  { registry with disk := registry.disk.unlink ["1", "censuses"] }

theorem eq_ok_of_to_option {ε α : Type} {answer : Except ε α} {value : α}
    (found : answer.toOption = some value) : answer = .ok value := by
  cases answer with
  | error error => cases found
  | ok other => exact congrArg Except.ok (Option.some.inj found)

theorem open_at_of_to_option {root : String}
    (found : (openAt disk path root).1.toOption = some registry) :
    ∃ later, openAt disk path root = (.ok registry, later) :=
  ⟨_, Prod.ext (eq_ok_of_to_option found) rfl⟩

/-- The second allocation fails until somebody takes the file away, and a restart comes between. -/
theorem identifiers_on_blocked_disk :
    ∃ registry disk events last, openAt blockedDisk "control" "censuses" = (.ok registry, disk) ∧
      registry.nextId = .ok ⟨0⟩ ∧ Life "control" registry events last ∧ events.length = 5 ∧
      grants events = [⟨0⟩, ⟨1⟩] ∧ Consecutive "control" ⟨0⟩ events last := by
  have formed : blockedDisk.WellFormed := Disk.nothing_well_formed.create rfl
  have known : blockedDisk.HeldFilesKnown := fun _ held => by cases held
  have computed : (openAt blockedDisk "control" "censuses").1.toOption.map (fun registry =>
      (registry.nextId.toOption, registry.newCensus.1.toOption,
        registry.newCensus.2.newCensus.1.toOption,
        decide (registry.newCensus.2.newCensus.2.disk.fileAt? ["1", "censuses"] =
          some registry.newCensus.2.newCensus.2.control),
        ((unblocked registry.newCensus.2.newCensus.2).restart "control").map fun again =>
          again.newCensus.1.toOption)) =
      some (some ⟨0⟩, some ⟨0⟩, none, false, some (some ⟨1⟩)) := by
    decide +kernel
  obtain ⟨registry, found, answers⟩ := Option.map_eq_some_iff.mp computed
  obtain ⟨counter, answers⟩ := Prod.mk.inj answers
  obtain ⟨first, answers⟩ := Prod.mk.inj answers
  obtain ⟨failed, answers⟩ := Prod.mk.inj answers
  obtain ⟨elsewhere, answers⟩ := Prod.mk.inj answers
  obtain ⟨again, reopened, second⟩ := Option.map_eq_some_iff.mp answers
  obtain ⟨disk, opened⟩ := open_at_of_to_option found
  have twice : Life "control" registry
      [.allocated registry.newCensus.1, .allocated registry.newCensus.2.newCensus.1]
      registry.newCensus.2.newCensus.2 := .allocated (.allocated (.rest _))
  obtain ⟨next, counts⟩ := Counts.of_open_at formed known opened
  obtain ⟨-, after, countsAfter, -⟩ := counts.life twice
  have spares := countsAfter.spares_unlink (of_decide_eq_false elsewhere)
  have life := Life.allocated (.allocated (.disturbed _ spares (.restarted reopened
    (.allocated (.rest again.newCensus.2)))))
  have isFirst := eq_ok_of_to_option counter
  refine ⟨registry, disk, _, _, opened, isFirst, life, rfl, ?_,
    identifiers_are_consecutive formed known opened isFirst life⟩
  rw [grants, eq_ok_of_to_option first, eq_ok_of_to_option second]
  cases answer : registry.newCensus.2.newCensus.1 with
  | ok id =>
      rw [answer] at failed
      cases failed
  | error error => rfl

end Registry

end CensusNode
