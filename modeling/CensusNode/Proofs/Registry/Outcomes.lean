import CensusNode.Proofs.Registry.Tenants

/-!
Requests as functions on sets. What a request makes of its census, and what it is answered, depends
on the set of that census alone, and a census that cannot be loaded is left alone. The set that a
census is answered from is the one that its store records, loaded or not.
-/

namespace CensusNode

/-- The set after a batch was submitted to it. A batch that is refused leaves it as it is. -/
def IdentitySet.submit (set : IdentitySet) (keys : List PublicKey) : IdentitySet :=
  match set.addKeys keys with
  | .ok (_, next) => next
  | .error _ => set

/-- What a batch that is submitted to the set of a census is answered. -/
def Registry.batchResult (id : CensusId) (keys : List PublicKey) (set : IdentitySet) :
    Except RegistryError Unit :=
  match set.addKeys keys with
  | .ok (refused, _) => batchAnswer id keys (.ok refused)
  | .error error => .error (.identitySet id error)

def CensusRequest.outcome : CensusRequest → IdentitySet → IdentitySet
  | .load _, set => set
  | .close _, set => set.close
  | .root _, set => set
  | .info _, set => set
  | .addKeys _ keys, set => set.submit keys
  | .ingest id keys now, set =>
      (set.submit keys).setStatus (Registry.ingestStatus keys now (Registry.batchResult id keys set))
  | .setStatus _ status, set => set.setStatus status

namespace IdentitySet

variable {set : IdentitySet}

theorem submit_of_refused {id : CensusId} {keys : List PublicKey} {error : RegistryError}
    (refused : Registry.batchResult id keys set = .error error) : set.submit keys = set := by
  rw [Registry.batchResult] at refused
  rw [submit]
  cases added : set.addKeys keys with
  | error fault => rfl
  | ok pair =>
      obtain ⟨rejected, next⟩ := pair
      rw [added] at refused
      obtain ⟨-, -, ⟨-, same⟩ | ⟨none, -⟩⟩ := add_keys_cases added
      · exact same
      · rw [none] at refused
        cases refused

theorem submit_status (keys : List PublicKey) : (set.submit keys).tables.status = set.tables.status := by
  rw [submit]
  cases added : set.addKeys keys with
  | error fault => rfl
  | ok pair =>
      obtain ⟨rejected, next⟩ := pair
      obtain ⟨-, -, ⟨-, same⟩ | ⟨-, grown⟩⟩ := add_keys_cases added
      · exact congrArg (fun set => set.tables.status) same
      · change next.tables.status = _
        rw [grown, CensusTables.append_eq]

theorem Persisted.submit (persisted : set.Persisted) (keys : List PublicKey) :
    (set.submit keys).Persisted := by
  rw [IdentitySet.submit]
  cases added : set.addKeys keys with
  | error fault => exact persisted
  | ok pair => exact persisted.add_keys added

theorem Persisted.outcome (persisted : set.Persisted) (request : CensusRequest) :
    (request.outcome set).Persisted := by
  cases request with
  | load id => exact persisted
  | root id => exact persisted
  | info id => exact persisted
  | close id => exact persisted.close
  | addKeys id keys => exact persisted.submit keys
  | ingest id keys now => exact (persisted.submit keys).set_status _
  | setStatus id status => exact persisted.set_status status

end IdentitySet

namespace Registry

variable {disk : Disk} {root name : String} {above : Location} {id : CensusId} {set : IdentitySet}
  {ledger : OpenLedger} {registry after : Registry} {store : Store}

theorem changed_of_function (known : Except RegistryError IdentitySet)
    (next : IdentitySet → IdentitySet) :
    changed known (fun set => .ok ((), next set)) = known.map next := by
  cases known <;> rfl

theorem changed_add_keys (known : Except RegistryError IdentitySet) (keys : List PublicKey) :
    changed known (fun set => set.addKeys keys) = known.map fun set => set.submit keys := by
  cases known with
  | error error => rfl
  | ok set =>
      simp only [changed, Except.map, IdentitySet.submit]
      cases set.addKeys keys <;> rfl

theorem Housed.set_at_add_keys (housed : Housed name above ledger registry) (id : CensusId)
    (keys : List PublicKey) : (registry.addKeys id keys).2.setAt id =
      (registry.setAt id).map fun set => set.submit keys := by
  rw [add_keys_eq, housed.set_at_update, changed_add_keys]

theorem add_keys_fst (registry : Registry) (id : CensusId) (keys : List PublicKey) :
    (registry.addKeys id keys).1 =
      match registry.setAt id with
      | .error error => .error error
      | .ok set => batchResult id keys set := by
  rw [add_keys_eq, update_fst]
  cases registry.setAt id with
  | error error => rfl
  | ok set =>
      simp only [answered, batchResult]
      cases set.addKeys keys <;> rfl

theorem Housed.add_keys (housed : Housed name above ledger registry) (id : CensusId)
    (keys : List PublicKey) : Housed name above ledger (registry.addKeys id keys).2 := by
  rw [add_keys_eq]
  exact housed.update id _

/-- A request makes of the set of its census what it would make of it anywhere else. -/
theorem Housed.set_at_serve (housed : Housed name above ledger registry)
    (request : CensusRequest) : (registry.serve request).setAt request.id =
      (registry.setAt request.id).map request.outcome := by
  have asked : (registry.resolve request.id).2.setAt request.id =
      (registry.setAt request.id).map fun set => set := by
    rw [(housed.unchanged_resolve_self request.id).set]
    cases registry.setAt request.id <;> rfl
  cases request with
  | load id => exact asked
  | root id =>
      rw [Registry.serve, Registry.root, query_snd]
      exact asked
  | info id =>
      rw [Registry.serve, Registry.info, query_snd]
      exact asked
  | close id => exact (housed.set_at_update id _).trans (changed_of_function _ _)
  | addKeys id keys => exact housed.set_at_add_keys id keys
  | setStatus id status => exact (housed.set_at_update id _).trans (changed_of_function _ _)
  | ingest id keys now =>
      have recorded := ((housed.add_keys id keys).set_at_update id _).trans
        (changed_of_function _ fun set =>
          set.setStatus (ingestStatus keys now (registry.addKeys id keys).1))
      rw [Registry.serve, ingest_eq]
      refine recorded.trans ?_
      rw [CensusRequest.id, housed.set_at_add_keys, add_keys_fst]
      cases registry.setAt id <;> rfl

theorem shown_of_entry {place : Location} (found : entry disk place = .ok store) :
    shownStore (disk.file? place) = .ok store := by
  rw [entry] at found
  cases named : disk.fileAt? place with
  | none =>
      rw [named] at found
      rw [Disk.file_eq_none_iff.mpr named]
      exact found
  | some file =>
      rw [named] at found
      rw [Disk.file_of_named named]
      simp only at found
      split at found
      · cases found
      · exact found

theorem entry_of_opening (opened : openingOf disk root name id = .ok store) :
    entry disk (storePlace disk root id) = .ok store := by
  unfold openingOf at opened
  split at opened
  · cases opened
  · split at opened
    · cases opened
    · rename_i found entered
      rw [entered, Except.ok.inj opened]

theorem access_eq_ok (accessed : access disk root name id = .ok set) :
    ∃ store, entry disk (storePlace disk root id) = .ok store ∧
      IdentitySet.load store.census = .ok set := by
  unfold access at accessed
  split at accessed
  · cases accessed
  · rename_i store opened
    split at accessed
    · cases accessed
    · rename_i loaded loads
      rw [Except.ok.inj accessed] at loads
      exact ⟨store, entry_of_opening opened, loads⟩

theorem set_at_of_opened {file : FileId} (absent : registry.find? id = none)
    (opened : (openStoreIn registry.disk (some (censusDirectory registry.censusRoot id))
      (censusPath registry.censusRoot id)).1 = .ok file)
    (holds : (openStoreIn registry.disk (some (censusDirectory registry.censusRoot id))
      (censusPath registry.censusRoot id)).2.storeAt file = store)
    (loads : IdentitySet.load store.census = .ok set) : registry.setAt id = .ok set := by
  rw [set_at_of_load absent]
  rcases load_of_opened opened holds with ⟨error, fails, -⟩ | ⟨found, loadsFound, loaded, stays⟩
  · rw [loads] at fails
    cases fails
  · rw [loads] at loadsFound
    obtain rfl := Except.ok.inj loadsFound
    cases loading : registry.load id with
    | mk answer after =>
        rw [loading] at loaded stays
        simp only at loaded stays
        rw [loaded]
        simp only [setOf, tablesOf, stays, ← IdentitySet.load_tables loads]

theorem Lodged.persisted_of {census : LoadedCensus} (lodged : registry.Lodged census) :
    registry.persisted census.id = .ok (registry.tablesOf census) := by
  obtain ⟨store, holds⟩ := lodged.holds
  rw [persisted, Disk.file_of_named lodged.named, tablesOf, Disk.storeAt, holds]
  rfl

/-- The set of a census is the one that is recorded. -/
theorem Housed.persisted_of_set_at (housed : Housed name above ledger registry)
    (isSet : registry.setAt id = .ok set) : registry.persisted id = .ok set.tables := by
  cases found : registry.find? id with
  | some census =>
      obtain ⟨member, isId⟩ := find_eq_some found
      rw [set_at_of_found found] at isSet
      rw [← isId, (housed.loaded census member).persisted_of, ← Except.ok.inj isSet]
      rfl
  | none =>
      rw [housed.rooted.set_at_of_absent housed.formed housed.known found] at isSet
      obtain ⟨store, entered, loads⟩ := access_eq_ok isSet
      rw [persisted, shown_of_entry entered, IdentitySet.load_tables loads]
      rfl

/-- A census is as it was when its set is, as its records say nothing else. -/
theorem Housed.unchanged_of_set_at (housed : Housed name above ledger registry)
    (housedAfter : Housed name above ledger after) (isSet : registry.setAt id = .ok set)
    (same : after.setAt id = registry.setAt id) : Unchanged id registry after where
  set := same
  persisted := by
    rw [housed.persisted_of_set_at isSet, housedAfter.persisted_of_set_at (same.trans isSet)]

theorem update_of_refused {α : Type}
    {change : IdentitySet → Except IdentityError (α × IdentitySet)} {error : RegistryError}
    (refused : (registry.update id change).1 = .error error) :
    (registry.update id change).2 = (registry.resolve id).2 := by
  revert refused
  unfold update
  cases registry.resolve id with
  | mk answer later =>
      cases answer with
      | error other => exact fun _ => rfl
      | ok census =>
          simp only
          cases change (later.setOf census) with
          | error fault => exact fun _ => rfl
          | ok pair =>
              intro isError
              cases isError

theorem new_census_of_refused {error : RegistryError}
    (refused : registry.newCensus.1 = .error error) :
    registry.newCensus.2 = registry ∨ ∃ id, registry.newCensus.2 = (registry.resolve id).2 := by
  revert refused
  unfold newCensus
  cases Counter.nextPair (registry.disk.storeAt registry.control) with
  | error exhausted => exact fun _ => Or.inl rfl
  | ok pair =>
      obtain ⟨id, next⟩ := pair
      intro refused
      right
      refine ⟨id, ?_⟩
      revert refused
      simp only
      cases registry.resolve id with
      | mk answer after =>
          cases answer with
          | error other => exact fun _ => rfl
          | ok census =>
              intro refused
              cases refused

/-- A batch that is refused, for whatever reason, leaves its census as it was. -/
theorem Housed.unchanged_add_keys (housed : Housed name above ledger registry)
    {keys : List PublicKey} {error : RegistryError}
    (refused : (registry.addKeys id keys).1 = .error error) :
    Unchanged id registry (registry.addKeys id keys).2 := by
  rw [add_keys_fst] at refused
  cases isSet : registry.setAt id with
  | error fault =>
      have failed : (registry.update id fun set => set.addKeys keys).1 = .error fault := by
        rw [update_fst, isSet]
        rfl
      rw [add_keys_eq, update_of_refused failed]
      exact housed.unchanged_resolve_self id
  | ok set =>
      rw [isSet] at refused
      apply housed.unchanged_of_set_at (housed.add_keys id keys) isSet
      rw [housed.set_at_add_keys, isSet]
      exact congrArg Except.ok (IdentitySet.submit_of_refused refused)

/-- A census that cannot be loaded is left alone by every request to it, and stays unloaded. -/
theorem Housed.serve_unloadable (housed : Housed name above ledger registry)
    (request : CensusRequest) {error : RegistryError}
    (failed : registry.setAt request.id = .error error) :
    Unchanged request.id registry (registry.serve request) ∧
      (registry.serve request).loaded = registry.loaded := by
  have kept := serve_keeps (motive := fun after => Housed name above ledger after ∧
    Unchanged request.id registry after ∧ after.loaded = registry.loaded) request
    ⟨housed, .refl _ _, rfl⟩ ?_ ?_
  · exact kept.2
  · intro before ⟨housed, unchanged, loaded⟩
    refine ⟨housed.resolve _, unchanged.trans (housed.unchanged_resolve_self _), ?_⟩
    have stillFails := unchanged.set.trans failed
    have resolution := housed.resolution request.id
    cases resolved : (before.resolve request.id).1 with
    | ok census =>
        rw [set_at_of_resolve resolved] at stillFails
        cases stillFails
    | error fault =>
        rw [resolved] at resolution
        obtain ⟨opens, isAfter⟩ := resolution.of_error
        rw [isAfter]
        exact loaded
  · -- Nothing is put into it, as only the sets of loaded censuses are replaced.
    intro _ before census set ⟨_, unchanged, _⟩ member isId
    have stillFails := unchanged.set.trans failed
    cases found : before.find? request.id with
    | none => exact absurd isId (find_eq_none found census member)
    | some other =>
        rw [set_at_of_found found] at stillFails
        cases stillFails

end Registry

end CensusNode
