import CensusNode.Proofs.Registry.Resolution

/-!
Requests addressed to a census. Each is made of steps that resolve the census and steps that replace
its set once it is loaded, so that whatever all such steps keep is kept by every request. Requests
that only ask resolve the census and leave it at that.
-/

namespace CensusNode

inductive CensusRequest where
  | load (id : CensusId)
  | close (id : CensusId)
  | root (id : CensusId)
  | info (id : CensusId)
  | addKeys (id : CensusId) (keys : List PublicKey)
  | ingest (id : CensusId) (keys : List PublicKey) (now : Instant)
  | setStatus (id : CensusId) (status : CensusStatus)

namespace CensusRequest

def id : CensusRequest → CensusId
  | load id => id
  | close id => id
  | root id => id
  | info id => id
  | addKeys id _ => id
  | ingest id _ _ => id
  | setStatus id _ => id

/-- Whether a request may change the census that it is addressed to. -/
def writes : CensusRequest → Bool
  | load _ => false
  | close _ => true
  | root _ => false
  | info _ => false
  | addKeys _ _ => true
  | ingest _ _ _ => true
  | setStatus _ _ => true

end CensusRequest

namespace Registry

variable {registry : Registry} {id : CensusId} {census : LoadedCensus}

def serve (registry : Registry) : CensusRequest → Registry
  | .load id => (registry.resolve id).2
  | .close id => (registry.closeCensus id).2
  | .root id => (registry.root id).2
  | .info id => (registry.info id).2
  | .addKeys id keys => (registry.addKeys id keys).2
  | .ingest id keys now => registry.ingest id keys now
  | .setStatus id status => (registry.setStatus id status).2

theorem find_eq_some (found : registry.find? id = some census) :
    census ∈ registry.loaded ∧ census.id = id := by
  refine ⟨List.mem_of_find?_eq_some found, ?_⟩
  simpa using List.find?_some found

theorem find_eq_none (absent : registry.find? id = none) :
    ∀ census ∈ registry.loaded, census.id ≠ id := by
  intro census member
  have differs := List.find?_eq_none.mp absent census member
  simpa using differs

theorem mem_put_set {other : LoadedCensus} {set : IdentitySet}
    (member : other ∈ (registry.putSet census set).loaded) :
    ∃ old ∈ registry.loaded, old.id = other.id ∧ old.file = other.file ∧
      (other.id = census.id ∧ other.sealed = set.sealed ∨ other.id ≠ census.id ∧ other = old) := by
  obtain ⟨old, oldMember, isOther⟩ := List.mem_map.mp member
  refine ⟨old, oldMember, ?_⟩
  split at isOther
  · rename_i same
    rw [← isOther]
    exact ⟨rfl, rfl, Or.inl ⟨same, rfl⟩⟩
  · rename_i different
    rw [← isOther]
    exact ⟨rfl, rfl, Or.inr ⟨different, rfl⟩⟩

theorem map_put_set {α : Type} {set : IdentitySet}
    (field : LoadedCensus → α)
    (kept : ∀ other sealed, field { other with sealed } = field other) :
    (registry.putSet census set).loaded.map field = registry.loaded.map field := by
  rw [putSet, List.map_map]
  apply List.map_congr_left
  intro other _
  rw [Function.comp]
  split
  · exact kept other set.sealed
  · rfl

theorem id_of_load (loaded : (registry.load id).1 = .ok census) : census.id = id := by
  unfold load at loaded
  cases opening : openStoreIn registry.disk (some (censusDirectory registry.censusRoot id))
      (censusPath registry.censusRoot id) with
  | mk answer disk =>
      cases answer with
      | error error =>
          simp only [opening] at loaded
          cases loaded
      | ok file =>
          cases loads : IdentitySet.load (disk.storeAt file).census with
          | error fault =>
              simp only [opening, loads] at loaded
              cases loaded
          | ok set =>
              simp only [opening, loads] at loaded
              rw [← Except.ok.inj loaded]

theorem mem_loaded_of_resolve (resolved : (registry.resolve id).1 = .ok census) :
    census ∈ (registry.resolve id).2.loaded ∧ census.id = id := by
  unfold resolve at resolved ⊢
  cases found : registry.find? id with
  | some other =>
      rw [found] at resolved
      rw [← Except.ok.inj resolved]
      refine ⟨List.mem_of_find?_eq_some found, ?_⟩
      simpa using List.find?_some found
  | none =>
      rw [found] at resolved
      have named : ∀ other, (registry.load id).1 = .ok other → other.id = id :=
        fun _ loaded => id_of_load loaded
      revert named resolved
      cases registry.load id with
      | mk answer after =>
          cases answer with
          | error error =>
              intro resolved
              cases resolved
          | ok other =>
              intro resolved named
              rw [← Except.ok.inj resolved]
              exact ⟨List.mem_append_right _ List.mem_cons_self, named other rfl⟩

theorem query_snd {α : Type} (question : IdentitySet → Except IdentityError α) :
    (registry.query id question).2 = (registry.resolve id).2 := by
  unfold query
  cases registry.resolve id with
  | mk answer after =>
      cases answer with
      | error error => rfl
      | ok census =>
          simp only
          split <;> rfl

/-- A change either resolves the census only, or replaces its set besides. -/
theorem update_snd {α : Type} (registry : Registry) (id : CensusId)
    (change : IdentitySet → Except IdentityError (α × IdentitySet)) :
    (registry.update id change).2 = (registry.resolve id).2 ∨
      ∃ census set, (registry.resolve id).1 = .ok census ∧
        (registry.update id change).2 = (registry.resolve id).2.putSet census set := by
  unfold update
  cases registry.resolve id with
  | mk answer after =>
      cases answer with
      | error error => exact Or.inl rfl
      | ok census =>
          simp only
          split
          · rename_i changed set _
            exact Or.inr ⟨census, set, rfl, rfl⟩
          · exact Or.inl rfl

def batchAnswer (id : CensusId) (keys : List PublicKey) :
    Except RegistryError (List RejectedKey) → Except RegistryError Unit
  | .error error => .error error
  | .ok [] => .ok ()
  | .ok (first :: rest) =>
      .error (.invalidKeys id keys.length (rest.length + 1) first.index first.reason)

theorem add_keys_eq (registry : Registry) (id : CensusId) (keys : List PublicKey) :
    registry.addKeys id keys =
      (batchAnswer id keys (registry.update id fun set => set.addKeys keys).1,
        (registry.update id fun set => set.addKeys keys).2) := by
  unfold addKeys
  cases registry.update id fun set => set.addKeys keys with
  | mk answer after =>
      match answer with
      | .error error => rfl
      | .ok [] => rfl
      | .ok (_ :: _) => rfl

/-- The status that is written once a batch was added in the background, or was refused. -/
def ingestStatus (keys : List PublicKey) (now : Instant) : Except RegistryError Unit → CensusStatus
  | .ok () => CensusStatus.ready ("added " ++ Decimal.encode keys.length ++ " public keys") now
  | .error error => error.toStatus now

theorem ingest_eq (registry : Registry) (id : CensusId) (keys : List PublicKey) (now : Instant) :
    registry.ingest id keys now = ((registry.addKeys id keys).2.setStatus id
      (ingestStatus keys now (registry.addKeys id keys).1)).2 := by
  unfold ingest
  cases registry.addKeys id keys with
  | mk answer after => cases answer <;> rfl

section

variable {motive : Registry → Prop}

theorem update_keeps {α : Type} (start : motive registry)
    (resolves : ∀ before, motive before → motive (before.resolve id).2)
    (puts : ∀ before census set, motive before → census ∈ before.loaded → census.id = id →
      motive (before.putSet census set))
    (change : IdentitySet → Except IdentityError (α × IdentitySet)) :
    motive (registry.update id change).2 := by
  have resolved := resolves registry start
  rcases update_snd registry id change with same | ⟨census, set, isFound, put⟩
  · rw [same]
    exact resolved
  · obtain ⟨member, isId⟩ := mem_loaded_of_resolve isFound
    rw [put]
    exact puts _ census set resolved member isId

/-- What resolving a census and replacing its set keep is kept by every request addressed to it, and
a request that does not write does not replace the set. -/
theorem serve_keeps (request : CensusRequest) (start : motive registry)
    (resolves : ∀ before, motive before → motive (before.resolve request.id).2)
    (puts : request.writes = true → ∀ before census set, motive before → census ∈ before.loaded →
      census.id = request.id → motive (before.putSet census set)) :
    motive (registry.serve request) := by
  cases request with
  | load id => exact resolves registry start
  | root id =>
      rw [serve, root, query_snd]
      exact resolves registry start
  | info id =>
      rw [serve, info, query_snd]
      exact resolves registry start
  | close id => exact update_keeps start resolves (puts rfl) _
  | setStatus id status => exact update_keeps start resolves (puts rfl) _
  | addKeys id keys =>
      rw [serve, add_keys_eq]
      exact update_keeps start resolves (puts rfl) _
  | ingest id keys now =>
      rw [serve, ingest_eq]
      have added : motive (registry.addKeys id keys).2 := by
        rw [add_keys_eq]
        exact update_keeps start resolves (puts rfl) _
      exact update_keeps added resolves (puts rfl) _

theorem new_census_keeps (start : motive registry)
    (resolves : ∀ before id, motive before → motive (before.resolve id).2)
    (writes : ∀ before next, motive before → motive { before with
      disk := before.disk.setStore before.control
        (Counter.write next (before.disk.storeAt before.control)) }) :
    motive registry.newCensus.2 := by
  unfold newCensus
  cases Counter.nextPair (registry.disk.storeAt registry.control) with
  | error error => exact start
  | ok pair =>
      obtain ⟨id, next⟩ := pair
      have resolved := resolves registry id start
      simp only
      revert resolved
      cases registry.resolve id with
      | mk answer after =>
          intro resolved
          cases answer with
          | error error => exact resolved
          | ok census => exact writes after next resolved

end

end Registry

end CensusNode
