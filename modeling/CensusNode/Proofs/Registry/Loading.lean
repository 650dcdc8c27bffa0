import CensusNode.Proofs.Census.History
import CensusNode.Proofs.Registry.Allocation

/-!
How often the stores of censuses are opened. As long as the stores on a disk hold what censuses
record, a store that can be opened is loaded, and a census is resolved in one of three ways: it is
loaded already, its store cannot be opened, or its store is opened now and never again. So the
loaded censuses of a registry are those that some operation could resolve, and there are as many
of them as stores were opened.
-/

namespace CensusNode

/-- The census in a store is recorded as operations on a census leave it. -/
def Store.Written (store : Store) : Prop :=
  ∃ operations history, CensusHistory.after operations = .ok history ∧
    store.census = history.set.tables

def CensusTables.Loads (tables : CensusTables) : Prop := ∃ set, IdentitySet.load tables = .ok set

namespace CensusTables

theorem loads_iff {tables : CensusTables} : tables.Loads ↔
    ∃ state, IdentitySet.readRecord CensusState.codec tables.state = .ok state ∧
      (state = some .closed → ∃ root,
        IdentitySet.readRecord (Codec.option CensusRoot.codec) tables.root = .ok root) := by
  unfold Loads IdentitySet.load IdentitySet.loadSealed
  cases IdentitySet.readRecord CensusState.codec tables.state with
  | error error => simp
  | ok state =>
      cases state with
      | none => simp
      | some state =>
          cases state with
          | opened => simp
          | closed =>
              cases IdentitySet.readRecord (Codec.option CensusRoot.codec) tables.root <;> simp

theorem empty_loads : empty.Loads := ⟨_, IdentitySet.load_empty⟩

/-- Whether tables load depends on the records of state and root only. -/
theorem Loads.of_records {tables other : CensusTables} (loads : tables.Loads)
    (state : other.state = tables.state) (root : other.root = tables.root) : other.Loads := by
  rw [loads_iff] at loads ⊢
  rw [state, root]
  exact loads

end CensusTables

theorem Store.Written.loads {store : Store} (written : store.Written) : store.census.Loads := by
  obtain ⟨operations, history, reached, same⟩ := written
  obtain ⟨other, isOther, sound⟩ := CensusHistory.after_sound operations
  rw [reached] at isOther
  rw [same, Except.ok.inj isOther]
  exact ⟨other.set, sound.persisted⟩

namespace IdentitySet

variable {set after : IdentitySet}

theorem loads_add_keys {batch : List PublicKey} {refused : List RejectedKey}
    (loads : set.tables.Loads) (added : set.addKeys batch = .ok (refused, after)) :
    after.tables.Loads := by
  obtain ⟨-, -, ⟨-, unchanged⟩ | ⟨-, grown⟩⟩ := add_keys_cases added
  · rwa [unchanged]
  · rw [grown]
    apply loads.of_records
    · rw [CensusTables.append_eq]
    · rw [CensusTables.append_eq]

theorem loads_set_status (loads : set.tables.Loads) (status : CensusStatus) :
    (set.setStatus status).tables.Loads := loads.of_records rfl rfl

theorem loads_close (loads : set.tables.Loads) : set.close.tables.Loads := by
  rw [close]
  cases set.sealed with
  | some sealed => exact loads
  | none =>
      rw [CensusTables.loads_iff]
      exact ⟨_, read_record_encode (CensusState.codec_restores .closed),
        fun _ => ⟨_, read_record_encode (CensusRoot.option_codec_restores (liveRoot set.tables))⟩⟩

end IdentitySet

namespace Disk

variable {disk : Disk} {location : Location} {store : Store}

def StoresLoad (disk : Disk) : Prop :=
  ∀ file store, disk.content file = .store store → store.census.Loads

theorem StoresLoad.set_store (loads : disk.StoresLoad) (written : store.census.Loads)
    (file : FileId) : (disk.setStore file store).StoresLoad := by
  intro other found isFound
  have kept : ∀ found, (disk.setStore file store).content other = .store found →
      found.census.Loads := by
    apply content_set_content_of (motive := fun content =>
      ∀ found, content = .store found → found.census.Loads)
    · exact loads other
    · rintro - found same
      cases same
      exact written
  exact kept found isFound

theorem StoresLoad.store_at (loads : disk.StoresLoad) (file : FileId) :
    (disk.storeAt file).census.Loads := by
  rw [storeAt]
  cases contents : disk.content file with
  | store store => exact loads file store contents
  | ledger image => exact CensusTables.empty_loads
  | raw bytes => exact CensusTables.empty_loads

theorem StoresLoad.shown (loads : disk.StoresLoad)
    (shown : Registry.shownStore (disk.file? location) = .ok store) : store.census.Loads := by
  cases holds : disk.file? location with
  | none =>
      rw [holds] at shown
      rw [← Except.ok.inj shown]
      exact CensusTables.empty_loads
  | some content =>
      rw [holds] at shown
      obtain ⟨file, -, isContent⟩ := Option.map_eq_some_iff.mp holds
      cases content with
      | store found =>
          rw [← Except.ok.inj shown]
          exact loads file found isContent
      | ledger image => cases shown
      | raw bytes =>
          cases bytes with
          | nil =>
              rw [← Except.ok.inj shown]
              exact CensusTables.empty_loads
          | cons byte rest => cases shown

theorem StoresLoad.of_contents {later : Disk} (loads : disk.StoresLoad)
    (same : later.contents = disk.contents) : later.StoresLoad := by
  intro file store isStore
  rw [content, same] at isStore
  exact loads file store isStore

theorem StoresLoad.with_store (loads : disk.StoresLoad) (formed : disk.WellFormed)
    (free : disk.isDirectory location = false) (written : store.census.Loads) :
    (disk.withStore location store).2.StoresLoad := by
  intro file found isFound
  by_cases here : file = (disk.withStore location store).1
  · have holds := with_store_holds formed free store
    rw [file_of_named (with_store_named disk location store), ← here, isFound] at holds
    cases holds
    exact written
  · rw [with_store_content here] at isFound
    exact loads file found isFound

end Disk

structure Attempt where
  id : CensusId
  succeeded : Bool
deriving DecidableEq

namespace Registry

variable {registry after last : Registry} {id : CensusId} {census : LoadedCensus} {disk : Disk}

theorem Available.outcome {directory : Option String} {path : String} {location : Location}
    {store : Store} (available : Available disk directory path location store) :
    outcome disk directory path = .ok store := by
  have grows := disk.prepare_grows directory
  have shown := available.shown
  rw [← grows.file] at shown
  rw [Registry.outcome]
  rw [available.prepared]
  simp only [available.located, available.free, Bool.false_eq_true, if_false, shown]

/-- A store that could not be opened does not count as opened. -/
theorem load_opens {other : CensusId} {fault : StoreError}
    (failed : (registry.load id).1 = .error (.load other fault)) :
    (registry.load id).2.storeOpens = registry.storeOpens := by
  unfold load at failed ⊢
  cases opening : openStoreIn registry.disk (some (censusDirectory registry.censusRoot id))
      (censusPath registry.censusRoot id) with
  | mk answer disk =>
      cases answer with
      | error error => simp only [opening]
      | ok file =>
          cases loads : IdentitySet.load (disk.storeAt file).census with
          | error error =>
              simp only [opening, loads] at failed
              cases failed
          | ok set =>
              simp only [opening, loads] at failed
              cases failed

theorem resolve_opens {other : CensusId} {fault : StoreError}
    (failed : (registry.resolve id).1 = .error (.load other fault)) :
    (registry.resolve id).2.storeOpens = registry.storeOpens := by
  unfold resolve at failed ⊢
  cases found : registry.find? id with
  | some census => rfl
  | none =>
      have opens (isLoad : (registry.load id).1 = .error (.load other fault)) := load_opens isLoad
      rw [found] at failed
      revert failed opens
      cases registry.load id with
      | mk answer after =>
          cases answer with
          | error error => exact fun failed opens => opens failed
          | ok census => exact fun failed => by cases failed

/-- The invariant of a registry whose stores can be loaded: each loaded census was loaded once, and
nothing else was opened. -/
structure Tallied (registry : Registry) : Prop where
  formed : registry.disk.WellFormed
  known : registry.disk.HeldFilesKnown
  loads : registry.disk.StoresLoad
  distinct : (registry.loaded.map LoadedCensus.id).Nodup
  opens : registry.storeOpens = registry.loaded.length

inductive Visit (registry : Registry) (id : CensusId) : Prop where
  /-- The census is loaded already, and nothing is opened. -/
  | loaded (census : LoadedCensus) (found : registry.find? id = some census)
      (resolved : registry.resolve id = (.ok census, registry))
  /-- The store cannot be opened, and the census is not loaded. -/
  | refused (error : RegistryError) (absent : registry.find? id = none)
      (closed : ∀ store, ¬registry.Offers id store)
      (resolved : registry.resolve id =
        (.error error, { registry with disk := registry.reached id }))
  /-- The store is opened, and the census is loaded from then on. -/
  | opened (store : Store) (set : IdentitySet) (absent : registry.find? id = none)
      (offers : registry.Offers id store) (loads : IdentitySet.load store.census = .ok set)
      (resolved : registry.resolve id =
        (.ok (registry.loadedFrom id store set).1, (registry.loadedFrom id store set).2))

theorem Unloadable.closed {error : RegistryError} (reason : Unloadable registry id error)
    (loads : registry.disk.StoresLoad) :
    (∃ fault, error = .load id fault) ∧ ∀ store, ¬registry.Offers id store := by
  cases reason with
  | unopened fault failed =>
      refine ⟨⟨fault, rfl⟩, fun store offers => ?_⟩
      have offered : registry.offer id = .ok store := offers.outcome
      rw [failed] at offered
      cases offered
  | taken held =>
      refine ⟨⟨_, rfl⟩, fun store offers => ?_⟩
      obtain ⟨location, file, located, named, isHeld⟩ := held
      rw [offers.located] at located
      rw [← Except.ok.inj located] at named
      rw [offers.unheld file named] at isHeld
      cases isHeld
  | unreadable store fault offered failed =>
      obtain ⟨-, location, -, shown⟩ := outcome_eq_ok offered
      have grows := registry.reached_grows id
      rw [← reached, grows.file] at shown
      obtain ⟨set, loaded⟩ := loads.shown shown
      rw [failed] at loaded
      cases loaded

theorem Tallied.visit (tallied : registry.Tallied) (id : CensusId) : registry.Visit id := by
  have resolution := resolve_cases tallied.formed tallied.known id
  have opens {fault : StoreError} (failed : (registry.resolve id).1 = .error (.load id fault)) :=
    resolve_opens failed
  revert resolution opens
  generalize isAnswer : registry.resolve id = answer
  obtain ⟨outcome, after⟩ := answer
  intro resolution opens
  simp only at resolution opens
  cases resolution with
  | loaded census found => exact .loaded census found isAnswer
  | refused error opened absent reason =>
      obtain ⟨⟨fault, isLoad⟩, closed⟩ := reason.closed tallied.loads
      have same := opens (congrArg Except.error isLoad)
      simp only at same
      rw [same] at isAnswer
      exact .refused error absent closed isAnswer
  | opened store set absent offered offers loads =>
      exact .opened store set absent offers loads isAnswer

theorem mem_loaded_ids : id ∈ registry.loadedIds ↔ id ∈ registry.loaded.map LoadedCensus.id := by
  rw [loadedIds, List.mem_mergeSort]

theorem loaded_ids_length (registry : Registry) :
    registry.loadedIds.length = registry.loaded.length := by
  rw [loadedIds, List.length_mergeSort, List.length_map]

theorem not_mem_of_absent (absent : registry.find? id = none) : id ∉ registry.loadedIds := by
  rw [mem_loaded_ids]
  intro member
  obtain ⟨census, isLoaded, isId⟩ := List.mem_map.mp member
  exact find_eq_none absent census isLoaded isId

theorem mem_of_found {census : LoadedCensus} (found : registry.find? id = some census) :
    id ∈ registry.loadedIds := by
  obtain ⟨member, isId⟩ := find_eq_some found
  rw [mem_loaded_ids, ← isId]
  exact List.mem_map_of_mem member

def attempt (registry : Registry) (id : CensusId) : Attempt := ⟨id, (registry.resolve id).1.isOk⟩

/-- A registry after some attempts: besides the censuses that were loaded before, those are loaded
that were resolved. -/
structure Tries (registry : Registry) (attempts : List Attempt) (after : Registry) : Prop where
  tallied : after.Tallied
  loaded : ∀ id, id ∈ after.loadedIds ↔ id ∈ registry.loadedIds ∨ ⟨id, true⟩ ∈ attempts

theorem Tries.refl (tallied : registry.Tallied) : registry.Tries [] registry :=
  ⟨tallied, fun id => by rw [List.mem_nil_iff, or_false]⟩

theorem Tries.trans {attempts others : List Attempt} (first : registry.Tries attempts after)
    (second : after.Tries others last) : registry.Tries (attempts ++ others) last where
  tallied := second.tallied
  loaded id := by rw [second.loaded, first.loaded, List.mem_append, or_assoc]

theorem mem_loaded_from {store : Store} {set : IdentitySet} {other : CensusId} :
    other ∈ (registry.loadedFrom id store set).2.loadedIds ↔
      other ∈ registry.loadedIds ∨ other = id := by
  rw [mem_loaded_ids, mem_loaded_ids, loadedFrom, List.map_append, List.mem_append]
  simp

theorem Tallied.resolve (tallied : registry.Tallied) (id : CensusId) :
    registry.Tries [registry.attempt id] (registry.resolve id).2 := by
  have grown := resolve_grown tallied.formed tallied.known id
  have isAttempt (other : CensusId) (succeeded : Bool)
      (isOk : (registry.resolve id).1.isOk = succeeded) :
      (⟨other, true⟩ ∈ [registry.attempt id] ↔ other = id ∧ succeeded = true) := by
    rw [List.mem_singleton, attempt, isOk, Attempt.mk.injEq, eq_comm (a := true)]
  cases tallied.visit id with
  | loaded census found resolved =>
      rw [resolved] at isAttempt ⊢
      refine ⟨tallied, fun other => ?_⟩
      rw [isAttempt other true rfl]
      constructor
      · exact Or.inl
      · rintro (before | ⟨same, -⟩)
        · exact before
        · rw [same]
          exact mem_of_found found
  | refused error absent closed resolved =>
      rw [resolved] at grown isAttempt ⊢
      constructor
      · exact ⟨grown.formed, grown.known,
          tallied.loads.of_contents (registry.reached_grows id).contents, tallied.distinct,
          tallied.opens⟩
      · intro other
        have unsuccessful : ¬(other = id ∧ false = true) := fun both => Bool.false_ne_true both.2
        rw [isAttempt other false rfl, or_iff_left unsuccessful]
        exact Iff.rfl
  | opened store set absent offers loads resolved =>
      rw [resolved] at grown isAttempt ⊢
      have new := find_eq_none absent
      constructor
      · constructor
        · exact grown.formed
        · exact grown.known
        · have before : (registry.reached id).StoresLoad :=
            tallied.loads.of_contents (registry.reached_grows id).contents
          exact before.with_store (Disk.prepare_well_formed tallied.formed _) offers.free
            ⟨set, loads⟩
        · -- A census is opened only where none is loaded, so its identifier is new.
          rw [loadedFrom, List.map_append, List.nodup_append]
          refine ⟨tallied.distinct, by simp, ?_⟩
          intro left isLeft right isRight same
          obtain ⟨census, member, isCensus⟩ := List.mem_map.mp isLeft
          rw [List.map_singleton, List.mem_singleton] at isRight
          exact new census member (isCensus.trans (same.trans isRight))
        · rw [loadedFrom, List.length_append, tallied.opens, List.length_singleton]
      · intro other
        rw [isAttempt other true rfl, mem_loaded_from, eq_self, and_true]

theorem Tallied.set_store (tallied : registry.Tallied) (file : FileId) (store : Store)
    (loads : store.census.Loads) :
    Tallied { registry with disk := registry.disk.setStore file store } where
  formed := tallied.formed.set_content
  known held isHeld := by
    have inRange := tallied.known held isHeld
    simpa [Disk.setStore, Disk.setContent] using inRange
  loads := tallied.loads.set_store loads file
  distinct := tallied.distinct
  opens := tallied.opens

theorem Tallied.put_set (tallied : registry.Tallied) {set : IdentitySet} (loads : set.tables.Loads)
    (census : LoadedCensus) : registry.Tries [] (registry.putSet census set) := by
  have same : (registry.putSet census set).loaded.map LoadedCensus.id =
      registry.loaded.map LoadedCensus.id := map_put_set LoadedCensus.id fun _ _ => rfl
  have stored := tallied.set_store census.file
    { registry.disk.storeAt census.file with census := set.tables } loads
  refine ⟨⟨stored.formed, stored.known, stored.loads, ?_, ?_⟩, ?_⟩
  · rw [same]
    exact tallied.distinct
  · have lengths := congrArg List.length same
    rw [List.length_map, List.length_map] at lengths
    rw [lengths]
    exact tallied.opens
  · intro id
    rw [List.mem_nil_iff, or_false, mem_loaded_ids, same, mem_loaded_ids]

theorem Tallied.update {α : Type} (tallied : registry.Tallied) (id : CensusId)
    {change : IdentitySet → Except IdentityError (α × IdentitySet)}
    (keeps : ∀ set answer changed, set.tables.Loads → change set = .ok (answer, changed) →
      changed.tables.Loads) :
    registry.Tries [registry.attempt id] (registry.update id change).2 := by
  have resolved := tallied.resolve id
  rw [Registry.update]
  revert resolved
  cases registry.resolve id with
  | mk answer after =>
      intro resolved
      cases answer with
      | error error => exact resolved
      | ok census =>
          simp only
          cases changing : change (after.setOf census) with
          | error error => exact resolved
          | ok pair =>
              obtain ⟨answer, set⟩ := pair
              have loads : (after.setOf census).tables.Loads :=
                resolved.tallied.loads.store_at census.file
              have put := resolved.tallied.put_set (keeps _ answer set loads changing) census
              exact resolved.trans put

theorem Tallied.add_keys (tallied : registry.Tallied) (id : CensusId) (keys : List PublicKey) :
    registry.Tries [registry.attempt id] (registry.addKeys id keys).2 := by
  rw [add_keys_eq]
  exact tallied.update id fun set refused changed loads added =>
    IdentitySet.loads_add_keys loads added

theorem Tallied.set_status (tallied : registry.Tallied) (id : CensusId) (status : CensusStatus) :
    registry.Tries [registry.attempt id] (registry.setStatus id status).2 := by
  apply tallied.update
  intro set answer changed loads isChanged
  cases isChanged
  exact IdentitySet.loads_set_status loads status

theorem Tallied.close_census (tallied : registry.Tallied) (id : CensusId) :
    registry.Tries [registry.attempt id] (registry.closeCensus id).2 := by
  apply tallied.update
  intro set answer changed loads isChanged
  cases isChanged
  exact IdentitySet.loads_close loads

end Registry

/-- An operation on an open registry. One that only inspects it asks for the next identifier, for
the loaded censuses or for the number of opened stores. -/
inductive RegistryOperation where
  | allocate
  | request (request : CensusRequest)
  | inspect

namespace Registry

variable {registry after last : Registry} {disk : Disk} {id : CensusId}

def perform (registry : Registry) : RegistryOperation → Registry
  | .allocate => registry.newCensus.2
  | .request request => registry.serve request
  | .inspect => registry

/-- The attempts of an operation to resolve a census. An allocation resolves the identifier in the
counter if there is one after it. A batch that is added in the background is followed by a status,
for which the census is resolved again. -/
def attempts (registry : Registry) : RegistryOperation → List Attempt
  | .allocate =>
      match Counter.nextPair (registry.disk.storeAt registry.control) with
      | .ok (id, _) => [registry.attempt id]
      | .error _ => []
  | .request (.ingest id keys _) =>
      [registry.attempt id] ++ [(registry.addKeys id keys).2.attempt id]
  | .request request => [registry.attempt request.id]
  | .inspect => []

theorem Tallied.allocate (tallied : registry.Tallied) :
    registry.Tries (registry.attempts .allocate) registry.newCensus.2 := by
  rw [attempts, newCensus]
  cases Counter.nextPair (registry.disk.storeAt registry.control) with
  | error error => exact .refl tallied
  | ok pair =>
      obtain ⟨id, next⟩ := pair
      have resolved := tallied.resolve id
      simp only
      revert resolved
      cases registry.resolve id with
      | mk answer after =>
          intro resolved
          cases answer with
          | error error => exact resolved
          | ok census =>
              have loads := resolved.tallied.loads.store_at after.control
              have written := resolved.tallied.set_store after.control
                (Counter.write next (after.disk.storeAt after.control)) loads
              exact ⟨written, resolved.loaded⟩

theorem Tallied.serve (tallied : registry.Tallied) (request : CensusRequest) :
    registry.Tries (registry.attempts (.request request)) (registry.serve request) := by
  cases request with
  | load id => exact tallied.resolve id
  | root id =>
      rw [Registry.serve, Registry.root, query_snd]
      exact tallied.resolve id
  | info id =>
      rw [Registry.serve, Registry.info, query_snd]
      exact tallied.resolve id
  | close id => exact tallied.close_census id
  | addKeys id keys => exact tallied.add_keys id keys
  | setStatus id status => exact tallied.set_status id status
  | ingest id keys now =>
      rw [Registry.serve, ingest_eq]
      have added := tallied.add_keys id keys
      exact added.trans (added.tallied.set_status id _)

theorem Tallied.perform (tallied : registry.Tallied) (operation : RegistryOperation) :
    registry.Tries (registry.attempts operation) (registry.perform operation) := by
  cases operation with
  | allocate => exact tallied.allocate
  | request request => exact tallied.serve request
  | inspect => exact .refl tallied

/-- A disk on which others may have changed anything, but put nothing into a store that is not
written as censuses are. -/
structure Disturbs (registry : Registry) (disk : Disk) : Prop where
  formed : disk.WellFormed
  known : disk.HeldFilesKnown
  stores : ∀ file store, disk.content file = .store store →
    (∃ old, registry.disk.content old = .store store) ∨ store.Written

/-- What happens to a registry while it is open, with the attempts to resolve a census that are
made. -/
inductive Session (registry : Registry) : List Attempt → Registry → Prop where
  | rest : Session registry [] registry
  | performed {attempts : List Attempt} {last : Registry} (earlier : Session registry attempts last)
      (operation : RegistryOperation) :
      Session registry (attempts ++ last.attempts operation) (last.perform operation)
  | disturbed {attempts : List Attempt} {last : Registry} (earlier : Session registry attempts last)
      (disk : Disk) (disturbs : last.Disturbs disk) :
      Session registry attempts { last with disk }

theorem Tallied.disturbed (tallied : registry.Tallied) (disturbs : registry.Disturbs disk) :
    registry.Tries [] { registry with disk } where
  tallied :=
    { formed := disturbs.formed
      known := disturbs.known
      loads := by
        intro file store isStore
        rcases disturbs.stores file store isStore with ⟨old, isOld⟩ | written
        · exact tallied.loads old store isOld
        · exact written.loads
      distinct := tallied.distinct
      opens := tallied.opens }
  loaded id := by
    rw [List.mem_nil_iff, or_false]
    exact Iff.rfl

theorem Tallied.session {attempts : List Attempt} (tallied : registry.Tallied)
    (session : registry.Session attempts last) : registry.Tries attempts last := by
  induction session with
  | rest => exact .refl tallied
  | performed earlier operation tries => exact tries.trans (tries.tallied.perform operation)
  | @disturbed attempts _ earlier disk disturbs tries =>
      have after := tries.trans (tries.tallied.disturbed disturbs)
      rwa [List.append_nil] at after

theorem seed_census {store seeded : Store} {next : CensusId}
    (seeding : Counter.seed store = .ok (next, seeded)) : seeded.census = store.census := by
  unfold Counter.seed at seeding
  split at seeding
  · cases seeding
    rfl
  · cases seeding
    rfl
  · cases seeding

theorem Tallied.of_open_at {path root : String} {before : Disk} (formed : before.WellFormed)
    (known : before.HeldFilesKnown) (loads : before.StoresLoad)
    (opened : openAt before path root = (.ok registry, disk)) :
    registry.Tallied ∧ registry.loaded = [] := by
  obtain ⟨location, store, next, seeded, available, seeding, isRegistry, -⟩ :=
    open_at_eq_ok formed known opened
  have grows := before.prepare_grows (Path.namedParent? path)
  have madeFormed := Disk.prepare_well_formed formed (Path.namedParent? path)
  have written : seeded.census.Loads := by
    rw [seed_census seeding]
    exact loads.shown available.shown
  have madeLoads := loads.of_contents grows.contents
  rw [isRegistry]
  refine ⟨⟨?_, ?_, ?_, ?_, ?_⟩, rfl⟩
  · exact (Disk.with_store_formed madeFormed available.free seeded).owned _
  · exact Disk.with_store_hold_known madeFormed (grows.known known) available.free
  · exact madeLoads.with_store madeFormed available.free written
  · exact List.nodup_nil
  · rfl

/-- Censuses are loaded once: those that are loaded are those that an operation could resolve, and
no other store was opened. -/
structure LoadedOnce (registry : Registry) (attempts : List Attempt) : Prop where
  ascending : registry.loadedIds.Pairwise fun left right => left.value < right.value
  resolved : ∀ id, id ∈ registry.loadedIds ↔ ⟨id, true⟩ ∈ attempts
  opens : registry.storeOpens = registry.loadedIds.length
  /-- Whatever happens later, a loaded census stays loaded. -/
  stays : ∀ later more, registry.Session more later → ∀ id ∈ registry.loadedIds, id ∈ later.loadedIds
  /-- A loaded census is not opened again. -/
  cached : ∀ id ∈ registry.loadedIds, ∃ census, registry.resolve id = (.ok census, registry)
  /-- A census that is not loaded is loaded as soon as its store can be opened. -/
  retried : ∀ id, id ∉ registry.loadedIds →
    ((∃ census, (registry.resolve id).1 = .ok census) ↔ ∃ store, registry.Offers id store)
  /-- A census that cannot be resolved is not loaded, nor is another, and no store counts as
  opened. -/
  failed : ∀ id error, (registry.resolve id).1 = .error error → id ∉ registry.loadedIds ∧
    (registry.resolve id).2.loadedIds = registry.loadedIds ∧
    (registry.resolve id).2.storeOpens = registry.storeOpens

theorem Tallied.ascending (tallied : registry.Tallied) :
    registry.loadedIds.Pairwise fun left right => left.value < right.value := by
  have sorted := List.pairwise_mergeSort
    (fun (first second third : CensusId) (earlier : decide (first.value ≤ second.value) = true)
        (later : decide (second.value ≤ third.value) = true) =>
      decide_eq_true (UInt64.le_trans (of_decide_eq_true earlier) (of_decide_eq_true later)))
    (fun first second => by
      rw [Bool.or_eq_true, decide_eq_true_eq, decide_eq_true_eq]
      exact UInt64.le_total first.value second.value)
    (registry.loaded.map LoadedCensus.id)
  have distinct : registry.loadedIds.Nodup :=
    (List.mergeSort_perm _ _).nodup_iff.mpr tallied.distinct
  refine (sorted.and distinct).imp ?_
  rintro left right ⟨before, different⟩
  apply UInt64.lt_of_le_of_ne (of_decide_eq_true before)
  intro same
  exact different (congrArg CensusId.mk same)

theorem Tallied.cached (tallied : registry.Tallied) (isLoaded : id ∈ registry.loadedIds) :
    ∃ census, registry.resolve id = (.ok census, registry) := by
  cases tallied.visit id with
  | loaded census found resolved => exact ⟨census, resolved⟩
  | refused error absent closed resolved => exact absurd isLoaded (not_mem_of_absent absent)
  | opened store set absent offers loads resolved =>
      exact absurd isLoaded (not_mem_of_absent absent)

theorem Tallied.retried (tallied : registry.Tallied) (isAbsent : id ∉ registry.loadedIds) :
    (∃ census, (registry.resolve id).1 = .ok census) ↔ ∃ store, registry.Offers id store := by
  cases tallied.visit id with
  | loaded census found resolved => exact absurd (mem_of_found found) isAbsent
  | refused error absent closed resolved =>
      rw [resolved]
      constructor
      · rintro ⟨census, isOk⟩
        cases isOk
      · rintro ⟨store, offers⟩
        exact absurd offers (closed store)
  | opened store set absent offers loads resolved =>
      rw [resolved]
      exact ⟨fun _ => ⟨store, offers⟩, fun _ => ⟨_, rfl⟩⟩

theorem Tallied.failed (tallied : registry.Tallied) {error : RegistryError}
    (isError : (registry.resolve id).1 = .error error) : id ∉ registry.loadedIds ∧
      (registry.resolve id).2.loadedIds = registry.loadedIds ∧
      (registry.resolve id).2.storeOpens = registry.storeOpens := by
  cases tallied.visit id with
  | loaded census found resolved =>
      rw [resolved] at isError
      cases isError
  | refused fault absent closed resolved =>
      rw [resolved]
      exact ⟨not_mem_of_absent absent, rfl, rfl⟩
  | opened store set absent offers loads resolved =>
      rw [resolved] at isError
      cases isError

/-- However operations address whatever censuses of an open registry, and whatever others change on
the disk between them, each store of a census is opened once at most: the loaded censuses are those
that some operation could resolve, and as many stores were opened. -/
theorem stores_are_opened_once {path root : String} {before : Disk} {attempts : List Attempt}
    (formed : before.WellFormed) (known : before.HeldFilesKnown)
    (written : ∀ file store, before.content file = .store store → store.Written)
    (opened : openAt before path root = (.ok registry, disk))
    (session : registry.Session attempts last) : last.LoadedOnce attempts := by
  have loads : before.StoresLoad := fun file store isStore => (written file store isStore).loads
  obtain ⟨tallied, fresh⟩ := Tallied.of_open_at formed known loads opened
  have tries := tallied.session session
  have after := tries.tallied
  constructor
  · exact after.ascending
  · intro id
    rw [tries.loaded, mem_loaded_ids, fresh, List.map_nil, List.mem_nil_iff, false_or]
  · rw [loaded_ids_length]
    exact after.opens
  · intro later more session id isLoaded
    rw [(after.session session).loaded]
    exact Or.inl isLoaded
  · exact fun id => after.cached
  · exact fun id => after.retried
  · exact fun id error => after.failed

theorem Tallied.disturbs_unlink (tallied : registry.Tallied) (place : Location) :
    registry.Disturbs (registry.disk.unlink place) where
  formed := tallied.formed.unlink
  known := tallied.known
  stores file _ isStore := Or.inl ⟨file, isStore⟩

def loadSecond : RegistryOperation := .request (.load ⟨1⟩)

/-- The first census is allocated; the second cannot be loaded until somebody takes away the file in
the place of its directory, and is then loaded once. -/
def blockedAttempts : List Attempt :=
  [⟨⟨0⟩, true⟩, ⟨⟨1⟩, false⟩, ⟨⟨1⟩, true⟩, ⟨⟨1⟩, true⟩]

theorem stores_on_blocked_disk :
    ∃ registry disk last, openAt blockedDisk "control" "censuses" = (.ok registry, disk) ∧
      registry.Session blockedAttempts last ∧ last.storeOpens = 2 ∧
      last.LoadedOnce blockedAttempts := by
  have formed : blockedDisk.WellFormed := Disk.nothing_well_formed.create rfl
  have known : blockedDisk.HeldFilesKnown := fun _ held => by cases held
  have written : ∀ file store, blockedDisk.content file = .store store → store.Written := by
    intro file store isStore
    cases file <;> cases isStore
  have computed : (openAt blockedDisk "control" "censuses").1.toOption.map (fun registry =>
      let first := registry.perform .allocate
      let second := unblocked (first.perform loadSecond)
      let third := second.perform loadSecond
      (registry.attempts .allocate, first.attempts loadSecond, second.attempts loadSecond,
        third.attempts loadSecond, (third.perform loadSecond).storeOpens)) =
      some ([⟨⟨0⟩, true⟩], [⟨⟨1⟩, false⟩], [⟨⟨1⟩, true⟩], [⟨⟨1⟩, true⟩], 2) := by
    decide +kernel
  obtain ⟨registry, found, answers⟩ := Option.map_eq_some_iff.mp computed
  obtain ⟨disk, opened⟩ := open_at_of_to_option found
  obtain ⟨first, answers⟩ := Prod.mk.inj answers
  obtain ⟨second, answers⟩ := Prod.mk.inj answers
  obtain ⟨third, answers⟩ := Prod.mk.inj answers
  obtain ⟨fourth, opens⟩ := Prod.mk.inj answers
  have twice : registry.Session _ ((registry.perform .allocate).perform loadSecond) :=
    (Session.rest.performed .allocate).performed loadSecond
  have loads : blockedDisk.StoresLoad :=
    fun file store isStore => (written file store isStore).loads
  have tallied := ((Tallied.of_open_at formed known loads opened).1.session twice).tallied
  have session := ((twice.disturbed _ (tallied.disturbs_unlink ["1", "censuses"])).performed
    loadSecond).performed loadSecond
  rw [first, second] at session
  change registry.Session (_ ++ (unblocked _).attempts loadSecond ++
    ((unblocked _).perform loadSecond).attempts loadSecond) _ at session
  rw [third, fourth] at session
  exact ⟨registry, disk, _, opened, session, opens,
    stores_are_opened_once formed known written opened session⟩

end Registry

end CensusNode
