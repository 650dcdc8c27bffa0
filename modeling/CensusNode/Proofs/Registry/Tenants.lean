import CensusNode.Proofs.Ledger.AnyOpening
import CensusNode.Proofs.Registry.Housed

/-!
Requests to censuses side by side. A request leaves alone every census but its own, and what it is
answered and makes of its own census is a function of the set of that census. Two registries in which
a census is the same set therefore answer its requests alike, whatever else they hold.
-/

namespace CensusNode.Registry

variable {disk after : Disk} {name : String} {above : Location} {id : CensusId}
  {ledger : OpenLedger} {registry : Registry} {census : LoadedCensus}

/-- A request leaves the counter and the ledger alone and every census that it does not write to. -/
theorem Housed.serve (housed : Housed name above ledger registry) (request : CensusRequest) :
    Housed name above ledger (registry.serve request) ∧
      SharedKept ledger registry (registry.serve request) ∧
      ∀ id, (request.writes = true → id ≠ request.id) →
        Unchanged id registry (registry.serve request) := by
  apply serve_keeps (motive := fun after => Housed name above ledger after ∧
    SharedKept ledger registry after ∧
      ∀ id, (request.writes = true → id ≠ request.id) → Unchanged id registry after)
  · exact ⟨housed, .refl _ _, fun id _ => .refl id registry⟩
  · intro before ⟨housed, shared, unchanged⟩
    exact ⟨housed.resolve _, shared.trans (housed.shared_resolve _),
      fun id spared => (unchanged id spared).trans (housed.unchanged_resolve id _)⟩
  · intro writes before census set ⟨housed, shared, unchanged⟩ member isId
    refine ⟨housed.put_set member set, shared.trans (housed.shared_put_set member set), ?_⟩
    intro id spared
    have different := spared writes
    rw [← isId] at different
    exact (unchanged id spared).trans (housed.unchanged_put_set member set different)

/-- An allocation changes no census, not even the one that it loads. -/
theorem Housed.new_census (housed : Housed name above ledger registry) :
    Housed name above ledger registry.newCensus.2 ∧
      ∀ id, Unchanged id registry registry.newCensus.2 := by
  apply new_census_keeps (motive := fun after => Housed name above ledger after ∧
    ∀ id, Unchanged id registry after)
  · exact ⟨housed, fun id => .refl id registry⟩
  · intro before other ⟨housed, unchanged⟩
    exact ⟨housed.resolve other, fun id => (unchanged id).trans (housed.unchanged_resolve id other)⟩
  · intro before next ⟨housed, unchanged⟩
    exact ⟨housed.write_counter next,
      fun id => (unchanged id).trans (housed.unchanged_write_counter id next)⟩

/-- The answer to a question put to the set of a census, when there is one. -/
def answered {α : Type} (id : CensusId) (set : Except RegistryError IdentitySet)
    (question : IdentitySet → Except IdentityError α) : Except RegistryError α :=
  match set with
  | .error error => .error error
  | .ok set =>
      match question set with
      | .ok answer => .ok answer
      | .error error => .error (.identitySet id error)

def changed {α : Type} (set : Except RegistryError IdentitySet)
    (change : IdentitySet → Except IdentityError (α × IdentitySet)) :
    Except RegistryError IdentitySet :=
  match set with
  | .error error => .error error
  | .ok set =>
      match change set with
      | .ok (_, next) => .ok next
      | .error _ => .ok set

theorem query_fst {α : Type} (registry : Registry) (id : CensusId)
    (question : IdentitySet → Except IdentityError α) :
    (registry.query id question).1 = answered id (registry.setAt id) question := by
  unfold setAt query
  cases registry.resolve id with
  | mk answer after =>
      cases answer with
      | error error => rfl
      | ok census =>
          simp only [answered]
          cases question (after.setOf census) <;> rfl

theorem update_fst {α : Type} (registry : Registry) (id : CensusId)
    (change : IdentitySet → Except IdentityError (α × IdentitySet)) :
    (registry.update id change).1 =
      answered id (registry.setAt id) fun set => (change set).map Prod.fst := by
  unfold setAt query update
  cases registry.resolve id with
  | mk answer after =>
      cases answer with
      | error error => rfl
      | ok census =>
          simp only [answered]
          cases change (after.setOf census) <;> rfl

theorem update_of_resolved {α : Type} (change : IdentitySet → Except IdentityError (α × IdentitySet))
    (resolved : (registry.resolve id).1 = .ok census) :
    (registry.update id change).2 =
      match change ((registry.resolve id).2.setOf census) with
      | .ok (_, set) => (registry.resolve id).2.putSet census set
      | .error _ => (registry.resolve id).2 := by
  unfold update
  cases resolving : registry.resolve id with
  | mk answer after =>
      rw [resolving] at resolved
      simp only at resolved
      rw [resolved]
      simp only
      cases change (after.setOf census) <;> rfl

theorem Housed.set_at_put_set (housed : Housed name above ledger registry)
    (found : registry.find? id = some census) (set : IdentitySet) :
    (registry.putSet census set).setAt id = .ok set := by
  have lodged := housed.loaded census (find_eq_some found).1
  have foundAfter := registry.find_put_set census set id
  rw [found, Option.map_some, if_pos rfl] at foundAfter
  have written : (registry.putSet census set).disk.content census.file =
      .store { registry.disk.storeAt census.file with census := set.tables } :=
    Disk.content_set_content_self (housed.known _ lodged.held)
  rw [set_at_of_found foundAfter, setOf, tablesOf, Disk.storeAt, written]
  rfl

theorem Housed.set_at_update {α : Type} (housed : Housed name above ledger registry)
    (id : CensusId) (change : IdentitySet → Except IdentityError (α × IdentitySet)) :
    (registry.update id change).2.setAt id = changed (registry.setAt id) change := by
  have unchanged := housed.unchanged_resolve_self id
  cases resolved : (registry.resolve id).1 with
  | error error =>
      have isSet : registry.setAt id = .error error := set_at_of_refused resolved
      rcases registry.update_snd id change with isAfter | ⟨census, set, isOk, -⟩
      · rw [isAfter, unchanged.set, isSet, changed]
      · rw [resolved] at isOk
        cases isOk
  | ok census =>
      have resolution := housed.resolution id
      rw [resolved] at resolution
      have isSet := set_at_of_resolve resolved
      rw [update_of_resolved change resolved, isSet, changed]
      cases change ((registry.resolve id).2.setOf census) with
      | error error =>
          simp only
          rw [unchanged.set, isSet]
      | ok pair => exact (housed.resolve id).set_at_put_set resolution.find_self pair.2

/-- The registry is apart from the ledger beside it, wherever its censuses lie. -/
def IsHoused (ledger : OpenLedger) (registry : Registry) : Prop :=
  ∃ name above, Housed name above ledger registry

/-- Two registries, each beside an open ledger, in which a census is the same set. -/
structure Aligned (id : CensusId) (left right : Registry) : Prop where
  first : ∃ ledger, IsHoused ledger left
  second : ∃ ledger, IsHoused ledger right
  set : left.setAt id = right.setAt id

theorem Housed.update {α : Type} (housed : Housed name above ledger registry) (id : CensusId)
    (change : IdentitySet → Except IdentityError (α × IdentitySet)) :
    Housed name above ledger (registry.update id change).2 :=
  update_keeps housed (fun _ housed => housed.resolve id)
    (fun _ _ set housed member _ => housed.put_set member set) change

namespace Aligned

variable {left right : Registry}

theorem query {α : Type} (aligned : Aligned id left right)
    (question : IdentitySet → Except IdentityError α) :
    (left.query id question).1 = (right.query id question).1 ∧
      Aligned id (left.query id question).2 (right.query id question).2 := by
  obtain ⟨⟨ledger, name, above, first⟩, ⟨otherLedger, otherName, otherAbove, second⟩, same⟩ :=
    aligned
  rw [query_fst, query_fst, same, query_snd, query_snd]
  refine ⟨rfl, ⟨ledger, name, above, first.resolve id⟩,
    ⟨otherLedger, otherName, otherAbove, second.resolve id⟩, ?_⟩
  rw [(first.unchanged_resolve_self id).set, (second.unchanged_resolve_self id).set, same]

/-- A change of both is accepted or refused alike and makes the same set. -/
theorem update {α : Type} (aligned : Aligned id left right)
    (change : IdentitySet → Except IdentityError (α × IdentitySet)) :
    (left.update id change).1 = (right.update id change).1 ∧
      Aligned id (left.update id change).2 (right.update id change).2 := by
  obtain ⟨⟨ledger, name, above, first⟩, ⟨otherLedger, otherName, otherAbove, second⟩, same⟩ :=
    aligned
  rw [update_fst, update_fst, same]
  refine ⟨rfl, ⟨ledger, name, above, first.update id change⟩,
    ⟨otherLedger, otherName, otherAbove, second.update id change⟩, ?_⟩
  rw [first.set_at_update, second.set_at_update, same]

theorem add_keys (aligned : Aligned id left right) (keys : List PublicKey) :
    (left.addKeys id keys).1 = (right.addKeys id keys).1 ∧
      Aligned id (left.addKeys id keys).2 (right.addKeys id keys).2 := by
  obtain ⟨same, after⟩ := aligned.update fun set => set.addKeys keys
  rw [add_keys_eq, add_keys_eq, same]
  exact ⟨rfl, after⟩

theorem ingest (aligned : Aligned id left right) (keys : List PublicKey) (now : Instant) :
    Aligned id (left.ingest id keys now) (right.ingest id keys now) := by
  obtain ⟨same, added⟩ := aligned.add_keys keys
  rw [ingest_eq, ingest_eq, same]
  exact (added.update _).2

theorem of_unchanged {after : Registry} (aligned : Aligned id left right)
    (housed : IsHoused ledger after) (unchanged : Unchanged id left after) :
    Aligned id after right :=
  ⟨⟨ledger, housed⟩, aligned.second, unchanged.set.trans aligned.set⟩

end Aligned

end CensusNode.Registry
