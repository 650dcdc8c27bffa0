import CensusNode.Proofs.Census.Admission
import CensusNode.Proofs.Registry.Allocation

/-!
What a newly allocated census holds. It is what the store of its identifier holds: empty when that
store is new and no request has written to it, whatever else the registry was asked for. Requests are
served for identifiers that were never allocated too, and what they write is there when the
identifier is allocated later.
-/

namespace CensusNode

/-- Whether an event leaves the contents of a census alone: nothing is written to it, and nobody
else changes the disk. -/
def RegistryEvent.leaves (id : CensusId) : RegistryEvent → Prop
  | .allocated _ => True
  | .requested request => request.writes = true → request.id ≠ id
  | .restarted => True
  | .disturbed _ => False

def CensusInfo.fresh (id : CensusId) : CensusInfo := ⟨id, .opened, none, none, 0⟩

theorem IdentitySet.info_of_empty (id : CensusId) :
    info id ⟨CensusTables.empty, none⟩ = .ok (CensusInfo.fresh id) := by
  have noRoot : liveRoot CensusTables.empty = none := by
    simp [liveRoot, rootOfLeaves, CensusTables.memberKeys, CensusTables.empty, Merkle.root?]
  simp only [info, root, noRoot]
  rfl

theorem Disk.file_set_content_of_elsewhere {disk : Disk} {place : Location} {file : FileId}
    (elsewhere : disk.fileAt? place ≠ some file) (content : FileContent) :
    (disk.setContent file content).file? place = disk.file? place := by
  cases named : disk.fileAt? place with
  | none =>
      rw [Disk.file_eq_none_iff.mpr named, Disk.file_eq_none_iff]
      exact named
  | some other =>
      have same : (disk.setContent file content).fileAt? place = some other := named
      have different : other ≠ file := by
        intro isFile
        rw [isFile] at named
        exact elsewhere named
      rw [Disk.file_of_named same, Disk.file_of_named named,
        Disk.content_set_content_of_ne different]

namespace Registry

variable {path : String} {id other : CensusId} {registry after last : Registry} {disk : Disk}
  {census : LoadedCensus}

/-- Nothing has been written to a census: its store is new, or the control store lies in its place,
so that it cannot be loaded at all. -/
structure Pristine (path : String) (id : CensusId) (registry : Registry) : Prop where
  counts : ∃ next, Counts path next registry
  placed : ∀ census ∈ registry.loaded,
    registry.disk.fileAt? (storePlace registry.disk registry.censusRoot census.id) =
      some census.file
  unsealed : ∀ census ∈ registry.loaded, census.id = id → census.sealed = none
  store : registry.disk.fileAt? (storePlace registry.disk registry.censusRoot id) =
      some registry.control ∨
    shownStore (registry.disk.file? (storePlace registry.disk registry.censusRoot id)) =
      .ok Store.empty

theorem Pristine.placed_grown (pristine : Pristine path id registry)
    (grown : Grown registry other after) : ∀ census ∈ after.loaded,
      after.disk.fileAt? (storePlace after.disk after.censusRoot census.id) =
        some census.file := by
  intro census member
  rw [grown.store_place]
  rcases grown.loaded census member with before | ⟨isId, -, named⟩
  · exact grown.adds.names _ _ (pristine.placed census before)
  · rw [isId]
    exact named

theorem Pristine.grown (pristine : Pristine path id registry) (grown : Grown registry other after)
    (different : other ≠ id) : Pristine path id after where
  counts := by
    obtain ⟨next, counts⟩ := pristine.counts
    exact ⟨next, counts.grown grown⟩
  placed := pristine.placed_grown grown
  unsealed census member isId := by
    rcases grown.loaded census member with before | ⟨isOther, -⟩
    · exact pristine.unsealed census before isId
    · exact absurd (isOther.symm.trans isId) different
  store := by
    have apart : storePlace registry.disk registry.censusRoot id ≠
        storePlace registry.disk registry.censusRoot other :=
      fun same => different (store_place_injective same).symm
    rw [grown.store_place, grown.control, (grown.elsewhere _ apart).1, (grown.elsewhere _ apart).2]
    exact pristine.store

theorem Pristine.resolve_self (pristine : Pristine path id registry) :
    Pristine path id (registry.resolve id).2 := by
  obtain ⟨next, counts⟩ := pristine.counts
  have grown := resolve_grown counts.formed counts.known id
  have countsAfter := counts.grown grown
  have placed := pristine.placed_grown grown
  have resolution := resolve_cases counts.formed counts.known id
  revert grown countsAfter placed resolution
  generalize registry.resolve id = answer
  obtain ⟨found, after⟩ := answer
  intro grown countsAfter placed resolution
  simp only at grown countsAfter placed resolution ⊢
  cases resolution with
  | loaded census isFound => exact pristine
  | refused error opens absent reason =>
      have grows := registry.reached_grows id
      have place := grown.store_place id
      refine ⟨⟨next, countsAfter⟩, placed, pristine.unsealed, ?_⟩
      rw [place]
      simp only [grows.file_at, grows.file]
      exact pristine.store
  | opened store set absent offered offers loads =>
      -- A store that can be opened is not the control store, so it is new.
      have isEmpty : store = Store.empty := by
        have shown := offers.shown
        rcases pristine.store with isControl | shownEmpty
        · have unheld := offers.unheld _ isControl
          rw [counts.held] at unheld
          cases unheld
        · rw [shownEmpty] at shown
          exact (Except.ok.inj shown).symm
      rw [isEmpty] at loads
      have holds := offers.holds counts.formed set
      have place := grown.store_place id
      refine ⟨⟨next, countsAfter⟩, placed, ?_, ?_⟩
      · intro census member isId
        rcases List.mem_append.mp member with before | isNew
        · exact pristine.unsealed census before isId
        · rw [List.mem_singleton] at isNew
          rw [isNew, ← Except.ok.inj loads]
      · right
        rw [place, holds, isEmpty]
        rfl

theorem Pristine.put_set (pristine : Pristine path id registry)
    (member : census ∈ registry.loaded) (different : census.id ≠ id) (set : IdentitySet) :
    Pristine path id (registry.putSet census set) where
  counts := by
    obtain ⟨next, counts⟩ := pristine.counts
    exact ⟨next, counts.put_set member set⟩
  placed other otherMember := by
    obtain ⟨old, oldMember, sameId, sameFile, -⟩ := mem_put_set otherMember
    have before := pristine.placed old oldMember
    rw [sameId, sameFile] at before
    exact before
  unsealed other otherMember isId := by
    obtain ⟨old, oldMember, -, -, ⟨isCensus, -⟩ | ⟨-, isOld⟩⟩ := mem_put_set otherMember
    · exact absurd (isCensus.symm.trans isId) different
    · rw [isOld] at isId ⊢
      exact pristine.unsealed old oldMember isId
  store := by
    obtain ⟨next, counts⟩ := pristine.counts
    have elsewhere : registry.disk.fileAt? (storePlace registry.disk registry.censusRoot id) ≠
        some census.file := by
      intro named
      have same := counts.formed.single _ _ _ (pristine.placed census member) named
      exact different (store_place_injective same)
    have same : (registry.putSet census set).disk.file?
        (storePlace registry.disk registry.censusRoot id) =
          registry.disk.file? (storePlace registry.disk registry.censusRoot id) :=
      Disk.file_set_content_of_elsewhere elsewhere _
    have store := pristine.store
    rw [← same] at store
    exact store

theorem Pristine.resolve (pristine : Pristine path id registry) (other : CensusId) :
    Pristine path id (registry.resolve other).2 := by
  by_cases same : other = id
  · rw [same]
    exact pristine.resolve_self
  · obtain ⟨next, counts⟩ := pristine.counts
    exact pristine.grown (resolve_grown counts.formed counts.known other) same

theorem Pristine.serve (pristine : Pristine path id registry) {request : CensusRequest}
    (spares : request.writes = true → request.id ≠ id) :
    Pristine path id (registry.serve request) := by
  apply serve_keeps request pristine
  · intro before pristine
    exact pristine.resolve request.id
  · intro writes before census set pristine member isId
    have different : census.id ≠ id := by
      rw [isId]
      exact spares writes
    exact pristine.put_set member different set

theorem Pristine.write (pristine : Pristine path id registry) (counter : CensusId) :
    Pristine path id { registry with
      disk := registry.disk.setStore registry.control
        (Counter.write counter (registry.disk.storeAt registry.control)) } where
  counts := by
    obtain ⟨next, counts⟩ := pristine.counts
    exact ⟨counter, counts.write counter⟩
  placed := pristine.placed
  unsealed := pristine.unsealed
  store := by
    by_cases isControl : registry.disk.fileAt? (storePlace registry.disk registry.censusRoot id) =
        some registry.control
    · exact Or.inl isControl
    · have same := Disk.file_set_content_of_elsewhere isControl
        (.store (Counter.write counter (registry.disk.storeAt registry.control)))
      have store := pristine.store
      rw [← same] at store
      exact store

theorem Pristine.new_census (pristine : Pristine path id registry) :
    Pristine path id registry.newCensus.2 := by
  apply new_census_keeps pristine
  · intro before other pristine
    exact pristine.resolve other
  · intro before counter pristine
    exact pristine.write counter

theorem Pristine.reopened (pristine : Pristine path id registry)
    (restarted : registry.restart path = some after) : Pristine path id after := by
  obtain ⟨next, counts⟩ := pristine.counts
  obtain ⟨files, isAfter, countsAfter⟩ := counts.restart
  rw [restarted] at isAfter
  rw [Option.some.inj isAfter]
  refine ⟨⟨next, countsAfter⟩, ?_, ?_, pristine.store⟩
  · intro census member
    cases member
  · intro census member
    cases member

theorem Pristine.life {events : List RegistryEvent} (pristine : Pristine path id registry)
    (life : Life path registry events last)
    (leaves : ∀ event ∈ events, event.leaves id) : Pristine path id last := by
  induction life with
  | rest registry => exact pristine
  | allocated later induction =>
      exact induction pristine.new_census (List.forall_mem_cons.mp leaves).2
  | requested request later induction =>
      exact induction (pristine.serve (leaves _ List.mem_cons_self))
        (List.forall_mem_cons.mp leaves).2
  | restarted restarted later induction =>
      exact induction (pristine.reopened restarted) (List.forall_mem_cons.mp leaves).2
  | disturbed disk spares later induction => exact (leaves _ List.mem_cons_self).elim

/-- A registry that was just opened on a disk without a store for the census. -/
theorem Pristine.of_open_at {root : String} {later : Disk} (formed : disk.WellFormed)
    (known : disk.HeldFilesKnown) (opened : openAt disk path root = (.ok registry, later))
    (absent : disk.fileAt? (storePlace disk root id) = none) : Pristine path id registry := by
  obtain ⟨location, store, next, seeded, available, -, isRegistry, -⟩ :=
    open_at_eq_ok formed known opened
  have grows := disk.prepare_grows (Path.namedParent? path)
  have keeps := Disk.with_store_keeps (Disk.prepare_well_formed formed (Path.namedParent? path))
    available.free seeded
  have named := Disk.with_store_named (disk.prepare (Path.namedParent? path)).2 location seeded
  have place : storePlace registry.disk registry.censusRoot id = storePlace disk root id := by
    rw [isRegistry]
    exact store_place_extends (grows.toExtends.trans (keeps.toWithin.owned _).extended) root id
  refine ⟨Counts.of_open_at formed known opened, ?_, ?_, ?_⟩
  · intro census member
    rw [isRegistry] at member
    cases member
  · intro census member
    rw [isRegistry] at member
    cases member
  · rw [place, isRegistry]
    simp only [started, Disk.file_at_hold, Disk.file_hold]
    by_cases here : storePlace disk root id = location
    · rw [here]
      exact Or.inl named
    · right
      have outside : storePlace disk root id ∉ [location] := by
        rw [List.mem_singleton]
        exact here
      rw [keeps.files _ outside, grows.file, Disk.file_eq_none_iff.mpr absent]
      rfl

/-- A loaded census to which nothing has been written is empty. -/
theorem Pristine.set_of (pristine : Pristine path id registry) (member : census ∈ registry.loaded)
    (isId : census.id = id) : registry.setOf census = ⟨CensusTables.empty, none⟩ := by
  obtain ⟨next, counts⟩ := pristine.counts
  have named := pristine.placed census member
  have shown := pristine.store
  rw [isId] at named
  rw [named, Disk.file_of_named named] at shown
  have isEmpty : registry.disk.storeAt census.file = Store.empty := by
    rcases shown with isControl | shownEmpty
    · exact absurd (Option.some.inj isControl) (counts.loaded census member)
    · rw [Disk.storeAt]
      cases content : registry.disk.content census.file with
      | store store =>
          rw [content] at shownEmpty
          exact Except.ok.inj shownEmpty
      | ledger image => rfl
      | raw bytes => rfl
  rw [setOf, tablesOf, isEmpty, pristine.unsealed census member isId]
  rfl

theorem find_of_mem_loaded (loaded : census ∈ registry.loaded ∧ census.id = id) :
    ∃ census, registry.find? id = some census := by
  rw [← Option.isSome_iff_exists, find?, List.find?_isSome]
  exact ⟨census, loaded.1, decide_eq_true loaded.2⟩

theorem loaded_of_new_census (granted : registry.newCensus.1 = .ok id) :
    ∃ census, registry.newCensus.2.find? id = some census := by
  unfold newCensus at granted ⊢
  cases pair : Counter.nextPair (registry.disk.storeAt registry.control) with
  | error error =>
      rw [pair] at granted
      cases granted
  | ok both =>
      obtain ⟨other, next⟩ := both
      have loaded (census : LoadedCensus) (resolved : (registry.resolve other).1 = .ok census) :=
        find_of_mem_loaded (mem_loaded_of_resolve resolved)
      simp only [pair] at granted ⊢
      revert granted loaded
      cases registry.resolve other with
      | mk answer after =>
          intro loaded granted
          cases answer with
          | error error => cases granted
          | ok census =>
              cases granted
              exact loaded census rfl

theorem resolve_of_found (found : registry.find? id = some census) :
    registry.resolve id = (.ok census, registry) := by
  rw [Registry.resolve, found]

/-- Nothing has been written to a newly allocated census whose store is new, and any admissible batch
of keys is accepted. -/
structure Empty (registry : Registry) (id : CensusId) : Prop where
  info : (registry.info id).1 = .ok (CensusInfo.fresh id)
  accepts : ∀ keys : List PublicKey, (∀ key ∈ keys, IdentitySet.Admissible key.bytes) →
    (keys.map PublicKey.bytes).Nodup → (registry.addKeys id keys).1 = .ok ()

theorem Pristine.empty (pristine : Pristine path id registry)
    (found : registry.find? id = some census) : Empty registry id := by
  have member := List.mem_of_find?_eq_some found
  have isId : census.id = id := by simpa using List.find?_some found
  have contents := pristine.set_of member isId
  have resolved := resolve_of_found found
  constructor
  · rw [info, query, resolved]
    simp only [contents, IdentitySet.info_of_empty]
  · intro keys admissible distinct
    have accepted : IdentitySet.rejections CensusTables.empty [] 0 keys = [] := by
      rw [IdentitySet.rejections_eq_nil_iff]
      refine ⟨?_, distinct⟩
      intro key member
      obtain ⟨one, isKey, same⟩ := List.mem_map.mp member
      rw [← same]
      exact ⟨admissible one isKey, List.not_mem_nil, List.not_mem_nil⟩
    rw [addKeys, update, resolved]
    simp only [contents, IdentitySet.addKeys, accepted]

/-- A newly allocated census is empty when its identifier had no store before the registry was first
opened and no request has written to it since. -/
theorem allocated_census_is_empty {before : Disk} {root : String} {events : List RegistryEvent}
    (formed : before.WellFormed) (known : before.HeldFilesKnown)
    (opened : openAt before path root = (.ok registry, disk))
    (absent : before.fileAt? (storePlace before root id) = none)
    (life : Life path registry events last) (leaves : ∀ event ∈ events, event.leaves id)
    (granted : last.newCensus.1 = .ok id) : Empty last.newCensus.2 id := by
  have pristine := (Pristine.of_open_at formed known opened absent).life life leaves
  obtain ⟨census, found⟩ := loaded_of_new_census granted
  exact pristine.new_census.empty found

theorem nothing_known : Disk.nothing.HeldFilesKnown := fun _ held => by cases held

/-- Another census was closed and the registry was restarted before the first allocation. -/
theorem first_census_is_empty :
    ∃ registry disk events last, openAt Disk.nothing "control" "censuses" = (.ok registry, disk) ∧
      Disk.nothing.fileAt? (storePlace Disk.nothing "censuses" ⟨0⟩) = none ∧
      Life "control" registry events last ∧ (∀ event ∈ events, event.leaves ⟨0⟩) ∧
      last.newCensus.1 = .ok ⟨0⟩ ∧ Empty last.newCensus.2 ⟨0⟩ := by
  have computed : (openAt Disk.nothing "control" "censuses").1.toOption.map (fun registry =>
      ((registry.serve (.close ⟨1⟩)).restart "control").map fun again =>
        again.newCensus.1.toOption) = some (some (some ⟨0⟩)) := by
    decide +kernel
  obtain ⟨registry, found, answers⟩ := Option.map_eq_some_iff.mp computed
  obtain ⟨again, reopened, answer⟩ := Option.map_eq_some_iff.mp answers
  obtain ⟨disk, opened⟩ := open_at_of_to_option found
  have granted := eq_ok_of_to_option answer
  have life : Life "control" registry [.requested (.close ⟨1⟩), .restarted] again :=
    .requested _ (.restarted reopened (.rest again))
  have leaves : ∀ event ∈ [RegistryEvent.requested (.close ⟨1⟩), .restarted], event.leaves ⟨0⟩ := by
    intro event member
    simp only [List.mem_cons, List.not_mem_nil, or_false] at member
    rcases member with isRequest | isRestart
    · rw [isRequest]
      intro _
      decide
    · rw [isRestart]
      trivial
  exact ⟨registry, disk, _, again, opened, rfl, life, leaves, granted,
    allocated_census_is_empty Disk.nothing_well_formed nothing_known opened rfl life leaves granted⟩

/-- A census that is closed before its identifier is allocated is closed when it is handed out. -/
theorem allocated_census_is_closed :
    ∃ registry disk last, openAt Disk.nothing "control" "censuses" = (.ok registry, disk) ∧
      Life "control" registry [.requested (.close ⟨0⟩)] last ∧ last.newCensus.1 = .ok ⟨0⟩ ∧
      (last.newCensus.2.info ⟨0⟩).1 = .ok ⟨⟨0⟩, .closed, none, none, 0⟩ ∧
      ¬Empty last.newCensus.2 ⟨0⟩ := by
  have computed : (openAt Disk.nothing "control" "censuses").1.toOption.map (fun registry =>
      let last := registry.serve (.close ⟨0⟩)
      (last.newCensus.1.toOption, (last.newCensus.2.info ⟨0⟩).1.toOption)) =
      some (some ⟨0⟩, some ⟨⟨0⟩, .closed, none, none, 0⟩) := by
    decide +kernel
  obtain ⟨registry, found, answers⟩ := Option.map_eq_some_iff.mp computed
  obtain ⟨granted, summary⟩ := Prod.mk.inj answers
  obtain ⟨disk, opened⟩ := open_at_of_to_option found
  have info := eq_ok_of_to_option summary
  refine ⟨registry, disk, _, opened, .requested _ (.rest _), eq_ok_of_to_option granted, info, ?_⟩
  intro empty
  have fresh := empty.info
  rw [info] at fresh
  cases fresh

end Registry

end CensusNode
