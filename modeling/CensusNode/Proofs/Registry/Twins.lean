import CensusNode.Proofs.Registry.Sound

/-!
Registries that cannot be told apart. Two sound registries of one node on alike disks give the same
answers, whichever censuses each of them has loaded, and every operation leaves them so.
-/

namespace CensusNode.Registry

variable {site : Site} {ledger : OpenLedger} {rows : List VoteRow} {registry : Registry}
  {id : CensusId}

theorem Sound.set_of (sound : Sound site ledger rows registry) {census : LoadedCensus}
    (member : census ∈ registry.loaded) :
    registry.disk.file? (site.store census.id) =
        some (.store (registry.disk.storeAt census.file)) ∧
      (registry.setOf census).Persisted := by
  have named := (sound.loaded census member).named
  obtain ⟨store, holds, persisted⟩ := (sound.loaded census member).holds
  have content := holds
  rw [Disk.file_of_named named] at content
  have isStore : registry.disk.storeAt census.file = store := by
    rw [Disk.storeAt, Option.some.inj content]
    rfl
  constructor
  · rw [holds, isStore]
  · rw [IdentitySet.Persisted, setOf, tablesOf, isStore, persisted]

theorem Sound.put_set (sound : Sound site ledger rows registry) {census : LoadedCensus}
    (member : census ∈ registry.loaded) {set : IdentitySet} (persisted : set.Persisted) :
    Sound site ledger rows (registry.putSet census set) := by
  have named := (sound.loaded census member).named
  have holds := (sound.set_of member).1
  have formed := sound.on_disk.formed
  have inside : site.store census.id ∈ [site.store census.id] := List.mem_cons_self
  have keeps : registry.disk.Keeps [site.store census.id] (registry.putSet census set).disk :=
    Disk.keeps_set_content formed named inside
  have written : (registry.putSet census set).disk.file? (site.store census.id) = some (.store
      { registry.disk.storeAt census.file with census := set.tables }) :=
    Disk.file_set_content_self formed named
  have after : (registry.putSet census set).disk.WellFormed := formed.set_content
  have elsewhere {place : Location} (different : place ≠ site.store census.id) :
      (registry.putSet census set).disk.file? place = registry.disk.file? place := by
    apply keeps.files
    rw [List.mem_singleton]
    exact different
  constructor
  · exact sound.on_disk.extends keeps.extended after
  · exact sound.root
  · exact sound.control
  · rw [elsewhere (site.store_ne_control census.id).symm]
    exact sound.counter
  · intro file
    have owners := sound.owners file
    rw [← List.mem_map] at owners ⊢
    rw [keeps.is_held, owners, map_put_set LoadedCensus.file (fun _ _ => rfl)]
    rfl
  · rw [map_put_set LoadedCensus.id (fun _ _ => rfl)]
    exact sound.distinct
  · intro other otherMember
    obtain ⟨old, oldMember, sameId, sameFile, isSealed | isOld⟩ := mem_put_set otherMember
    · have before := sound.loaded old oldMember
      have prepared := before.prepared.extends keeps.extended
      have located := Disk.locate_extends keeps.extended before.located
      have named := before.named
      rw [sameId] at prepared located named
      rw [sameFile] at named
      refine ⟨prepared, located, named, ?_⟩
      rw [isSealed.1, isSealed.2]
      exact ⟨_, written, persisted⟩
    · have different : site.store other.id ≠ site.store census.id := fun same =>
        isOld.1 (Site.store_injective same)
      rw [isOld.2] at different ⊢
      exact (sound.loaded old oldMember).keeps keeps.extended rfl (elsewhere different)
  · apply sound.running.spared after keeps.extended
    · intro place _
      rfl
    · intro place placeMember
      apply elsewhere
      intro same
      rw [same] at placeMember
      rcases List.mem_cons.mp placeMember with isLedger | isCompanion
      · rw [isLedger, sound.running.holds] at holds
        cases holds
      · exact site.store_not_companion census.id site.ledger isCompanion
    · exact sound.running.journal.free

/-- Two registries of one node that cannot be told apart, each beside a ledger with the same
rows. -/
structure Twins (site : Site) (ledger other : OpenLedger) (rows : List VoteRow)
    (left right : Registry) : Prop where
  first : Sound site ledger rows left
  second : Sound site other rows right
  alike : Disk.Alike (hidden site) left.disk right.disk

/-- An operation that twins answer alike and stay twins under. -/
structure Agree {α : Type} (site : Site) (ledger other : OpenLedger) (rows : List VoteRow)
    (left right : α × Registry) : Prop where
  answer : left.1 = right.1
  twins : Twins site ledger other rows left.2 right.2

variable {other : OpenLedger} {left right : Registry}

theorem Twins.resolve (usable : site.Usable) (twins : Twins site ledger other rows left right)
    (id : CensusId) :
    Twins site ledger other rows (left.resolve id).2 (right.resolve id).2 ∧
      (left.resolve id).1.map (left.resolve id).2.setOf =
        (right.resolve id).1.map (right.resolve id).2.setOf := by
  have first := twins.first.resolve usable id
  have second := twins.second.resolve usable id
  constructor
  · exact ⟨first.sound, second.sound,
      first.visited.alike usable twins.second.on_disk twins.alike second.visited⟩
  · rw [← first.answer, ← second.answer]
    exact consult_alike usable twins.second.on_disk twins.alike id

theorem Twins.resolve_cases (usable : site.Usable) (twins : Twins site ledger other rows left right)
    (id : CensusId) :
    ∃ leftLater rightLater, Twins site ledger other rows leftLater rightLater ∧
      ((∃ error, left.resolve id = (.error error, leftLater) ∧
          right.resolve id = (.error error, rightLater)) ∨
        ∃ census twin, left.resolve id = (.ok census, leftLater) ∧
          right.resolve id = (.ok twin, rightLater) ∧ census ∈ leftLater.loaded ∧
          twin ∈ rightLater.loaded ∧ census.id = id ∧ twin.id = id ∧
          leftLater.setOf census = rightLater.setOf twin) := by
  obtain ⟨after, same⟩ := twins.resolve usable id
  have first := (twins.first.resolve usable id).loaded
  have second := (twins.second.resolve usable id).loaded
  refine ⟨_, _, after, ?_⟩
  revert after same first second
  cases left.resolve id with
  | mk leftFound leftLater =>
      cases right.resolve id with
      | mk rightFound rightLater =>
          intro after same first second
          cases leftFound with
          | error error =>
              cases rightFound with
              | error _ =>
                  cases same
                  exact Or.inl ⟨error, rfl, rfl⟩
              | ok _ => cases same
          | ok census =>
              cases rightFound with
              | error _ => cases same
              | ok twin =>
                  obtain ⟨member, isId⟩ := first census rfl
                  obtain ⟨twinMember, twinId⟩ := second twin rfl
                  exact Or.inr ⟨census, twin, rfl, rfl, member, twinMember, isId, twinId,
                    Except.ok.inj same⟩

/-- Twins answer questions alike. -/
theorem Twins.query {α : Type} (usable : site.Usable)
    (twins : Twins site ledger other rows left right) (id : CensusId)
    (question : IdentitySet → Except IdentityError α) :
    Agree site ledger other rows (left.query id question) (right.query id question) := by
  obtain ⟨leftLater, rightLater, after, ⟨error, first, second⟩ |
    ⟨census, twin, first, second, -, -, -, -, same⟩⟩ := twins.resolve_cases usable id
  · rw [Registry.query, Registry.query, first, second]
    exact ⟨rfl, after⟩
  · rw [Registry.query, Registry.query, first, second]
    simp only [same]
    cases question (rightLater.setOf twin) with
    | ok answer => exact ⟨rfl, after⟩
    | error error => exact ⟨rfl, after⟩

theorem Twins.put_set (twins : Twins site ledger other rows left right)
    {census twin : LoadedCensus} (member : census ∈ left.loaded) (twinMember : twin ∈ right.loaded)
    (same : census.id = twin.id) {set : IdentitySet} (persisted : set.Persisted) :
    Twins site ledger other rows (left.putSet census set) (right.putSet twin set) := by
  refine ⟨twins.first.put_set member persisted, twins.second.put_set twinMember persisted, ?_⟩
  have stores := twins.alike.files _ (store_not_hidden site census.id)
  rw [(twins.first.set_of member).1, same, (twins.second.set_of twinMember).1] at stores
  have contents := FileContent.store.inj (Option.some.inj stores)
  have named := (twins.first.loaded census member).named
  rw [same] at named
  rw [Registry.putSet, Registry.putSet, contents]
  exact twins.alike.set_content twins.first.on_disk.formed twins.second.on_disk.formed named
    (twins.second.loaded twin twinMember).named _

/-- Twins take changes alike, if persisted sets stay persisted. -/
theorem Twins.update {α : Type} (usable : site.Usable)
    (twins : Twins site ledger other rows left right) (id : CensusId)
    {change : IdentitySet → Except IdentityError (α × IdentitySet)}
    (keeps : ∀ set answer after, set.Persisted → change set = .ok (answer, after) →
      after.Persisted) :
    Agree site ledger other rows (left.update id change) (right.update id change) := by
  obtain ⟨leftLater, rightLater, after, ⟨error, first, second⟩ |
    ⟨census, twin, first, second, member, twinMember, isId, twinId, same⟩⟩ :=
      twins.resolve_cases usable id
  · rw [Registry.update, Registry.update, first, second]
    exact ⟨rfl, after⟩
  · have persisted := (after.second.set_of twinMember).2
    rw [Registry.update, Registry.update, first, second]
    simp only [same]
    cases changed : change (rightLater.setOf twin) with
    | error error => exact ⟨rfl, after⟩
    | ok outcome =>
        obtain ⟨answer, set⟩ := outcome
        have kept := keeps _ answer set persisted changed
        exact ⟨rfl, after.put_set member twinMember (isId.trans twinId.symm) kept⟩

theorem Twins.close_census (usable : site.Usable) (twins : Twins site ledger other rows left right)
    (id : CensusId) :
    Agree site ledger other rows (left.closeCensus id) (right.closeCensus id) := by
  apply twins.update usable id
  intro set answer after persisted changed
  cases changed
  exact persisted.close

theorem Twins.add_keys (usable : site.Usable) (twins : Twins site ledger other rows left right)
    (id : CensusId) (keys : List PublicKey) :
    Agree site ledger other rows (left.addKeys id keys) (right.addKeys id keys) := by
  have keeps : ∀ set answer after, IdentitySet.Persisted set →
      set.addKeys keys = .ok (answer, after) → after.Persisted :=
    fun set answer after persisted added => persisted.add_keys added
  obtain ⟨same, after⟩ := twins.update usable id keeps
  rw [add_keys_eq, add_keys_eq, same]
  exact ⟨rfl, after⟩

theorem Twins.set_status (usable : site.Usable) (twins : Twins site ledger other rows left right)
    (id : CensusId) (status : CensusStatus) :
    Agree site ledger other rows (left.setStatus id status) (right.setStatus id status) := by
  apply twins.update usable id
  intro set answer after persisted changed
  cases changed
  exact persisted.set_status status

theorem Twins.ingest (usable : site.Usable) (twins : Twins site ledger other rows left right)
    (id : CensusId) (keys : List PublicKey) (now : Instant) :
    Twins site ledger other rows (left.ingest id keys now) (right.ingest id keys now) := by
  obtain ⟨same, after⟩ := twins.add_keys usable id keys
  rw [ingest_eq, ingest_eq, same]
  exact (after.set_status usable id _).twins

theorem Sound.control_store (sound : Sound site ledger rows registry) :
    registry.disk.file? site.control = some (.store (registry.disk.storeAt registry.control)) ∧
      ∃ next, Counter.read (Counter.tableOf (registry.disk.storeAt registry.control)) =
        .ok next := by
  obtain ⟨store, next, holds, readable⟩ := sound.counter
  have content := holds
  rw [Disk.file_of_named sound.control] at content
  have isStore : registry.disk.storeAt registry.control = store := by
    rw [Disk.storeAt, Option.some.inj content]
    rfl
  rw [isStore]
  exact ⟨holds, next, readable⟩

theorem Sound.write_counter (usable : site.Usable) (sound : Sound site ledger rows registry)
    (next : CensusId) (store : Store) :
    Sound site ledger rows { registry with
      disk := registry.disk.setStore registry.control (Counter.write next store) } := by
  have formed := sound.on_disk.formed
  have inside : site.control ∈ [site.control] := List.mem_cons_self
  have keeps : registry.disk.Keeps [site.control]
      (registry.disk.setStore registry.control (Counter.write next store)) :=
    Disk.keeps_set_content formed sound.control inside
  have elsewhere {place : Location} (different : place ≠ site.control) :
      (registry.disk.setStore registry.control (Counter.write next store)).file? place =
        registry.disk.file? place := by
    apply keeps.files
    rw [List.mem_singleton]
    exact different
  constructor
  · exact sound.on_disk.extends keeps.extended formed.set_content
  · exact sound.root
  · exact sound.control
  · exact ⟨_, next, Disk.file_set_content_self formed sound.control, Counter.read_write next store⟩
  · exact sound.owners
  · exact sound.distinct
  · intro census member
    exact (sound.loaded census member).keeps keeps.extended rfl
      (elsewhere (site.store_ne_control census.id))
  · apply sound.running.spared formed.set_content keeps.extended
    · intro place _
      rfl
    · intro place member
      apply elsewhere
      intro same
      rw [same] at member
      exact usable.control member
    · exact sound.running.journal.free

theorem control_not_hidden (usable : site.Usable) : site.control ∉ hidden site := by
  intro member
  apply usable.control
  exact List.mem_cons_of_mem _ (List.mem_cons_of_mem _ member)

theorem Twins.control_store (usable : site.Usable)
    (twins : Twins site ledger other rows left right) :
    left.disk.storeAt left.control = right.disk.storeAt right.control := by
  have stores := twins.alike.files _ (control_not_hidden usable)
  rw [twins.first.control_store.1, twins.second.control_store.1] at stores
  exact FileContent.store.inj (Option.some.inj stores)

theorem Twins.new_census (usable : site.Usable) (twins : Twins site ledger other rows left right) :
    Agree site ledger other rows left.newCensus right.newCensus := by
  have before := twins.control_store usable
  unfold Registry.newCensus
  rw [before]
  cases Counter.nextPair (right.disk.storeAt right.control) with
  | error error => exact ⟨rfl, twins⟩
  | ok pair =>
      obtain ⟨id, next⟩ := pair
      obtain ⟨leftLater, rightLater, after, ⟨error, first, second⟩ |
        ⟨census, twin, first, second, -⟩⟩ := twins.resolve_cases usable id
      · simp only [first, second]
        exact ⟨rfl, after⟩
      · simp only [first, second]
        have same := after.control_store usable
        refine ⟨rfl, after.first.write_counter usable next _,
          after.second.write_counter usable next _, ?_⟩
        rw [same]
        exact after.alike.set_content after.first.on_disk.formed after.second.on_disk.formed
          after.first.control after.second.control _

theorem Sound.put_rows_spec
    (sound : Sound site ledger rows registry) (next : List VoteRow) :
    (ledger.putRows registry.disk next).WellFormed ∧
      (∀ place, (ledger.putRows registry.disk next).fileAt? place = registry.disk.fileAt? place) ∧
      registry.disk.Keeps [site.ledger, Ledger.logOf site.ledger]
        (ledger.putRows registry.disk next) ∧
      (ledger.putRows registry.disk next).file? site.ledger = some (Ledger.image next) := by
  have logged : (registry.disk.content ledger.file).logged = .ok true := by
    rw [sound.running.content]
    rfl
  exact Ledger.put_rows_keeps sound.on_disk.formed sound.running.named sound.running.logged logged
    next

theorem Sound.put_rows (usable : site.Usable) (sound : Sound site ledger rows registry)
    (writes : ledger.writable = true)
    (next : List VoteRow) :
    Sound site ledger next
      { registry with disk := ledger.putRows registry.disk next } := by
  obtain ⟨formed, names, keeps, -⟩ := sound.put_rows_spec next
  have controlOutside : site.control ∉ [site.ledger, Ledger.logOf site.ledger] := by
    intro member
    apply usable.control
    rcases List.mem_cons.mp member with isLedger | isLog
    · rw [isLedger]
      exact List.mem_cons_self
    · rw [List.mem_singleton.mp isLog]
      exact Ledger.log_mem_files site.ledger
  have reliable : registry.disk.isDirectory (Ledger.indexOf site.ledger) = false := by
    have same := sound.running.writable
    rw [writes] at same
    simpa using same.symm
  have logged : (registry.disk.content ledger.file).logged = .ok true := by
    rw [sound.running.content]
    rfl
  constructor
  · exact sound.on_disk.extends keeps.extended formed
  · exact sound.root
  · exact (names _).trans sound.control
  · have same := keeps.files _ controlOutside
    simp only [same]
    exact sound.counter
  · intro file
    simp only [keeps.is_held]
    exact sound.owners file
  · exact sound.distinct
  · intro census member
    have outside : site.store census.id ∉ [site.ledger, Ledger.logOf site.ledger] := by
      intro inside
      rcases List.mem_cons.mp inside with isLedger | isLog
      · obtain ⟨store, holds, -⟩ := (sound.loaded census member).holds
        rw [isLedger, sound.running.holds] at holds
        cases holds
      · apply site.store_not_companion census.id site.ledger
        rw [List.mem_singleton.mp isLog]
        simp [Ledger.companions]
    exact (sound.loaded census member).keeps keeps.extended (names _) (keeps.files _ outside)
  · exact Ledger.put_rows_running sound.on_disk.formed sound.running.named sound.running.logged
      logged sound.running.journal reliable writes next

theorem Twins.put_rows (twins : Twins site ledger other rows left right) (next : List VoteRow) :
    Disk.Alike (hidden site) (ledger.putRows left.disk next) (other.putRows right.disk next) := by
  obtain ⟨-, leftNames, leftKeeps, leftHolds⟩ := twins.first.put_rows_spec next
  obtain ⟨-, rightNames, rightKeeps, rightHolds⟩ := twins.second.put_rows_spec next
  constructor
  · rw [leftKeeps.working_directory, rightKeeps.working_directory, twins.alike.working_directory]
  · intro place
    rw [leftKeeps.is_directory, rightKeeps.is_directory, twins.alike.directories]
  · intro place
    rw [leftNames, rightNames, twins.alike.occupied]
  · intro place shown
    by_cases isLedger : place = site.ledger
    · rw [isLedger, leftHolds, rightHolds]
    · have outside : place ∉ [site.ledger, Ledger.logOf site.ledger] := by
        intro member
        rcases List.mem_cons.mp member with same | isLog
        · exact isLedger same
        · rw [List.mem_singleton.mp isLog] at shown
          exact shown List.mem_cons_self
      rw [leftKeeps.files _ outside, rightKeeps.files _ outside, twins.alike.files place shown]

end CensusNode.Registry
