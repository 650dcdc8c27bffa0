import CensusNode.Proofs.Service.Commands

/-!
Closing is final. Once a census is closed, its members, its root and its state stay what they are,
whatever the node is asked for and however often it is restarted; only its status is still written.
Before a restart the seal in memory is answered from, and after it the one that is loaded.
-/

namespace CensusNode

namespace IdentitySet

variable {set : IdentitySet} {sealed : Sealed}

theorem add_keys_of_sealed (isSealed : set.sealed = some sealed) (keys : List PublicKey) :
    set.addKeys keys = .error .closed := by
  rw [addKeys, isSealed]

theorem submit_of_sealed (isSealed : set.sealed = some sealed) (keys : List PublicKey) :
    set.submit keys = set := by
  rw [submit, add_keys_of_sealed isSealed]

theorem state_of_sealed (isSealed : set.sealed = some sealed) : set.state = .closed := by
  rw [state, isSealed]

theorem close_sealed (set : IdentitySet) : ∃ sealed, set.close.sealed = some sealed := by
  unfold close
  split
  · exact ⟨_, ‹_›⟩
  · exact ⟨_, rfl⟩

theorem close_member_count (set : IdentitySet) : set.close.memberCount = set.memberCount := by
  cases isSealed : set.sealed with
  | some sealed => rw [close_of_sealed isSealed]
  | none => simp only [close, isSealed, memberCount]

theorem close_members (set : IdentitySet) : set.close.tables.members = set.tables.members ∧
    set.close.tables.lookup = set.tables.lookup := by
  unfold close
  split <;> exact ⟨rfl, rfl⟩

theorem Persisted.recorded (persisted : set.Persisted) (isSealed : set.sealed = some sealed) :
    set.tables ≠ CensusTables.empty := by
  intro isEmpty
  rw [Persisted, isEmpty, load_empty] at persisted
  rw [← Except.ok.inj persisted] at isSealed
  cases isSealed

end IdentitySet

def CensusRequest.writesStatus : CensusRequest → Bool
  | .ingest _ _ _ => true
  | .setStatus _ _ => true
  | _ => false

theorem CensusRequest.outcome_of_quiet {set : IdentitySet} {sealed : Sealed}
    (isSealed : set.sealed = some sealed) {request : CensusRequest}
    (quiet : request.writesStatus = false) : request.outcome set = set := by
  cases request with
  | load id => rfl
  | root id => rfl
  | info id => rfl
  | close id => exact IdentitySet.close_of_sealed isSealed
  | addKeys id keys => exact IdentitySet.submit_of_sealed isSealed keys
  | setStatus id status => cases quiet
  | ingest id keys now => cases quiet

theorem CensusRequest.outcome_of_sealed {set : IdentitySet} {sealed : Sealed}
    (isSealed : set.sealed = some sealed) (request : CensusRequest) :
    request.outcome set = set ∨ ∃ status, request.outcome set = set.setStatus status := by
  cases quiet : request.writesStatus with
  | false => exact Or.inl (outcome_of_quiet isSealed quiet)
  | true =>
      right
      cases request with
      | setStatus id status => exact ⟨status, rfl⟩
      | ingest id keys now =>
          rw [outcome, IdentitySet.submit_of_sealed isSealed]
          exact ⟨_, rfl⟩
      | load id => cases quiet
      | root id => cases quiet
      | info id => cases quiet
      | close id => cases quiet
      | addKeys id keys => cases quiet

/-- A set with the seal and the members that another one had. -/
structure IdentitySet.Keeps (first : IdentitySet) (sealed : Sealed) (set : IdentitySet) : Prop
    extends set.SameMembership first where
  isSealed : set.sealed = some sealed

theorem IdentitySet.Keeps.outcome {first set : IdentitySet} {sealed : Sealed}
    (keeps : first.Keeps sealed set) (request : CensusRequest) :
    first.Keeps sealed (request.outcome set) := by
  rcases request.outcome_of_sealed keeps.isSealed with same | ⟨status, isStatus⟩
  · rw [same]
    exact keeps
  · rw [isStatus]
    exact ⟨⟨keeps.members, keeps.lookup, keeps.count, keeps.root, keeps.state⟩, keeps.isSealed⟩

namespace Registry

variable {name : String} {above : Location} {ledger : OpenLedger} {registry : Registry}

theorem Housed.extends_resolve (housed : Housed name above ledger registry) (id : CensusId) :
    registry.disk.Extends (registry.resolve id).2.disk :=
  (resolve_grown housed.formed housed.known id).adds.toExtends

theorem Housed.extends_serve (housed : Housed name above ledger registry)
    (request : CensusRequest) : registry.disk.Extends (registry.serve request).disk := by
  have kept := serve_keeps (motive := fun after => Housed name above ledger after ∧
    registry.disk.Extends after.disk) request ⟨housed, .refl _⟩ ?_ ?_
  · exact kept.2
  · intro before ⟨housed, extended⟩
    exact ⟨housed.resolve _, extended.trans (housed.extends_resolve _)⟩
  · intro _ before census set ⟨housed, extended⟩ member _
    exact ⟨housed.put_set member set, extended.trans (Disk.extends_set_content _ _ _)⟩

theorem Housed.extends_new_census (housed : Housed name above ledger registry) :
    registry.disk.Extends registry.newCensus.2.disk := by
  have kept := new_census_keeps (motive := fun after => Housed name above ledger after ∧
    registry.disk.Extends after.disk) ⟨housed, .refl _⟩ ?_ ?_
  · exact kept.2
  · intro before id ⟨housed, extended⟩
    exact ⟨housed.resolve id, extended.trans (housed.extends_resolve id)⟩
  · intro before next ⟨housed, extended⟩
    exact ⟨housed.write_counter next, extended.trans (Disk.extends_set_content _ _ _)⟩

theorem resolved_of_set_at {id : CensusId} {set : IdentitySet}
    (isSet : registry.setAt id = .ok set) : ∃ census, (registry.resolve id).1 = .ok census := by
  cases resolved : (registry.resolve id).1 with
  | ok census => exact ⟨census, rfl⟩
  | error error =>
      rw [set_at_of_refused resolved] at isSet
      cases isSet

theorem Housed.reaches_of_resolve (housed : Housed name above ledger registry) {id : CensusId}
    {census : LoadedCensus} (resolved : (registry.resolve id).1 = .ok census) :
    Service.Reaches registry.censusRoot id (registry.resolve id).2.disk := by
  obtain ⟨member, isId⟩ := mem_loaded_of_resolve resolved
  have lodged := (housed.resolve id).loaded census member
  have prepared := lodged.prepared
  have located := lodged.located
  rw [isId, resolve_root] at prepared located
  exact ⟨prepared, located⟩

end Registry

theorem OpenLedger.extends_put_rows (ledger : OpenLedger) (disk : Disk) (rows : List VoteRow) :
    disk.Extends (ledger.putRows disk rows) := by
  have written := Disk.extends_set_content disk ledger.file
    ((disk.content ledger.file).withRows rows)
  rw [putRows, markLog]
  split
  · exact written
  · split
    · exact written
    · exact written.trans (Disk.extends_set_content _ _ _)

def ServiceStep.writesStatusOf (id : CensusId) : ServiceStep → Bool
  | .operation asked =>
      asked.request?.any fun request => request.writesStatus && request.id = id
  | .restart => false

namespace Service

variable {config : NodeConfig} {service last : Service} {id : CensusId}
  {kept : IdentitySet → Prop}

theorem IsHoused.extends_perform (housed : service.IsHoused) (operation : ServiceOperation) :
    service.registry.disk.Extends (service.perform operation).2.registry.disk := by
  obtain ⟨name, above, rooms⟩ := housed
  apply perform_keeps (motive := fun later =>
    service.registry.disk.Extends later.registry.disk) (.refl _) operation
  · exact fun request _ => rooms.extends_serve request
  · exact rooms.extends_new_census
  · intro root package now
    rw [storeVote]
    split
    · exact .refl _
    · split
      · exact service.ledger.extends_put_rows _ _
      · exact .refl _

/-- A census answers from a set of some kind, and its store is found again. -/
structure Answers (config : NodeConfig) (id : CensusId) (kept : IdentitySet → Prop)
    (service : Service) : Prop where
  inUse : InUse config service
  reaches : Reaches config.censusRootPath id service.registry.disk
  set : ∃ set, service.registry.setAt id = .ok set ∧ kept set

/-- A request to the census itself makes of its set what it makes of a set. -/
theorem Answers.serve (answers : Answers config id kept service) (request : CensusRequest)
    (isOwn : request.id = id) {next : IdentitySet → Prop}
    (becomes : ∀ set, kept set → next (request.outcome set)) :
    Answers config id next { service with registry := service.registry.serve request } := by
  obtain ⟨set, isSet, isKept⟩ := answers.set
  obtain ⟨name, above, rooms⟩ := answers.inUse.housed
  constructor
  · exact answers.inUse.serve request
  · exact answers.reaches.extends (rooms.extends_serve request)
  · have isAfter := rooms.set_at_serve request
    rw [isOwn, isSet] at isAfter
    exact ⟨_, isAfter, becomes set isKept⟩

theorem Answers.perform (answers : Answers config id kept service) {operation : ServiceOperation}
    (stays : ∀ request, operation.request? = some request → request.id = id → ∀ set, kept set →
      kept (request.outcome set)) : Answers config id kept (service.perform operation).2 where
  inUse := answers.inUse.perform operation
  reaches := answers.reaches.extends (answers.inUse.housed.extends_perform operation)
  set := by
    obtain ⟨set, isSet, isKept⟩ := answers.set
    have housed := answers.inUse.housed
    have carries {later : Service}
        (unchanged : Registry.Unchanged id service.registry later.registry) :
        ∃ set, later.registry.setAt id = .ok set ∧ kept set :=
      ⟨set, unchanged.set.trans isSet, isKept⟩
    apply perform_keeps (motive := fun later =>
      ∃ set, later.registry.setAt id = .ok set ∧ kept set) ⟨set, isSet, isKept⟩ operation
    · intro request asked
      by_cases isOwn : request.id = id
      · exact (answers.serve request isOwn (stays request asked isOwn)).set
      · exact carries ((housed.serve request).2.2 id fun _ => Ne.symm isOwn)
    · obtain ⟨name, above, rooms⟩ := housed
      exact carries (rooms.new_census.2 id)
    · exact fun root package now => carries ((housed.store_vote root package now).2 id)

theorem Answers.restart (answers : Answers config id kept service)
    (recorded : ∀ set, kept set → set.Persisted → set.tables ≠ CensusTables.empty)
    {again : Service} (restarted : service.restart config = some again) :
    Answers config id kept again where
  inUse := answers.inUse.restart restarted
  reaches := answers.reaches.extends (answers.inUse.left_by.extended.trans
    (answers.inUse.opened_again restarted).extended)
  set := by
    obtain ⟨set, isSet, isKept⟩ := answers.set
    have isRecorded := recorded set isKept (answers.inUse.restorable id set isSet)
    exact ⟨set, answers.inUse.set_at_restart restarted isSet isRecorded answers.reaches, isKept⟩

/-- A kind of recorded sets that no request of a run leaves is kept by the whole run. -/
theorem Answers.run (answers : Answers config id kept service)
    (recorded : ∀ set, kept set → set.Persisted → set.tables ≠ CensusTables.empty)
    {steps : List ServiceStep} {given : List ServiceAnswer}
    (stays : ∀ operation, .operation operation ∈ steps → ∀ request,
      operation.request? = some request → request.id = id → ∀ set, kept set →
        kept (request.outcome set))
    (ran : service.run config steps = some (given, last)) : Answers config id kept last := by
  apply run_keeps answers _ _ ran
  · exact fun before operation answers member => answers.perform (stays operation member)
  · exact fun before again answers restarted => answers.restart recorded restarted

theorem lift_of_ok {α : Type} {answer : Except RegistryError α × Registry} {value : α}
    (done : answer.1 = .ok value) : (service.lift answer).1 = .ok value := by
  rw [lift, done]

theorem IsHoused.preserved_of_same (housed : service.IsHoused) (request : CensusRequest)
    {set : IdentitySet} (isSet : service.registry.setAt request.id = .ok set)
    (same : request.outcome set = set) :
    Preserved service { service with registry := service.registry.serve request } := by
  apply housed.preserved_serve request
  obtain ⟨name, above, rooms⟩ := housed
  apply rooms.unchanged_of_set_at (rooms.serve request).1 isSet
  rw [rooms.set_at_serve, isSet]
  exact congrArg Except.ok same

/-- A census that was closed at some time, seen from a later one. It is closed and has the members and
the answer about its root that it had; no batch is taken, closing it once more changes nothing, and
a status that is written is the one that shows until the next is written, over restarts too. -/
structure ClosedSince (config : NodeConfig) (service : Service) (id : CensusId) (last : Service) :
    Prop where
  membership : ∃ old set, service.registry.setAt id = .ok old ∧ last.registry.setAt id = .ok set ∧
    set.state = .closed ∧ set.root = old.root ∧ set.memberCount = old.memberCount ∧
    set.tables.members = old.tables.members ∧ set.tables.lookup = old.tables.lookup
  root : (last.censusRoot id).1 = (service.censusRoot id).1
  batches : ∀ keys, (last.addKeys id keys).1 = .error (.registry (.identitySet id .closed)) ∧
    Preserved last (last.addKeys id keys).2
  closings : (last.closeCensus id).1 = .ok () ∧ Preserved last (last.closeCensus id).2
  statuses : ∀ status, status.message.utf8ByteSize < 2 ^ 64 →
    (last.setStatus id status).1 = .ok () ∧ ∀ steps answers later,
      (∀ step ∈ steps, step.writesStatusOf id = false) →
      (last.setStatus id status).2.run config steps = some (answers, later) →
      ∃ set, later.registry.setAt id = .ok set ∧ set.status = .ok (some status)

/-- The census that was just closed is loaded, so that its store has been found in its place. -/
theorem InUse.close_census (inUse : InUse config service)
    (closes : (service.closeCensus id).1 = .ok ()) :
    ∃ old sealed, service.registry.setAt id = .ok old ∧
      Answers config id (old.close.Keeps sealed) (service.closeCensus id).2 := by
  obtain ⟨name, above, rooms⟩ := inUse.housed
  obtain ⟨old, isOld⟩ := set_at_of_update (lift_eq_ok closes)
  obtain ⟨sealed, isSealed⟩ := old.close_sealed
  refine ⟨old, sealed, isOld, ?_⟩
  rw [closeCensus, lift_snd]
  have isAfter := rooms.set_at_serve (.close id)
  rw [CensusRequest.id, isOld] at isAfter
  obtain ⟨census, resolved⟩ := Registry.resolved_of_set_at isOld
  have reaches := rooms.reaches_of_resolve resolved
  rw [inUse.root] at reaches
  constructor
  · exact inUse.serve (.close id)
  · apply reaches.extends
    change Disk.Extends _ (service.registry.update id _).2.disk
    rcases service.registry.update_snd id fun set => .ok ((), set.close) with
      same | ⟨census, set, -, put⟩
    · rw [same]
      exact .refl _
    · rw [put]
      exact Disk.extends_set_content _ _ _
  · exact ⟨old.close, isAfter, ⟨rfl, rfl, rfl, rfl, rfl⟩, isSealed⟩

theorem Answers.closed_since {old : IdentitySet} {sealed : Sealed}
    (isOld : service.registry.setAt id = .ok old)
    (answers : Answers config id (old.close.Keeps sealed) last) : ClosedSince config service id last := by
  obtain ⟨set, isSet, keeps⟩ := answers.set
  have housed := answers.inUse.housed
  constructor
  · refine ⟨old, set, isOld, isSet, IdentitySet.state_of_sealed keeps.isSealed, ?_, ?_, ?_, ?_⟩
    · exact keeps.root.trans old.close_root
    · exact keeps.count.trans old.close_member_count
    · exact keeps.members.trans old.close_members.1
    · exact keeps.lookup.trans old.close_members.2
  · apply lift_fst
    rw [Registry.root, Registry.root, Registry.query_fst, Registry.query_fst, isSet, isOld,
      Registry.answered, Registry.answered, keeps.root, old.close_root]
  · intro keys
    constructor
    · rw [add_keys_answer, isSet]
      simp only [Registry.batchResult, IdentitySet.add_keys_of_sealed keeps.isSealed]
      rfl
    · rw [addKeys, lift_snd]
      exact housed.preserved_of_same (.addKeys id keys) isSet
        (IdentitySet.submit_of_sealed keeps.isSealed keys)
  · constructor
    · apply lift_of_ok
      rw [Registry.closeCensus, Registry.update_fst, isSet]
      rfl
    · rw [closeCensus, lift_snd]
      exact housed.preserved_of_same (.close id) isSet
        (IdentitySet.close_of_sealed keeps.isSealed)
  · intro status fits
    constructor
    · apply lift_of_ok
      rw [Registry.setStatus, Registry.update_fst, isSet]
      rfl
    · intro steps given later quiet ran
      have now : Answers config id (· = set) last :=
        ⟨answers.inUse, answers.reaches, set, isSet, rfl⟩
      have told : Answers config id (· = set.setStatus status) (last.setStatus id status).2 := by
        rw [setStatus, lift_snd]
        exact now.serve (.setStatus id status) rfl fun _ same =>
          congrArg (fun set => set.setStatus status) same
      have recorded : ∀ other, other = set.setStatus status → other.Persisted →
          other.tables ≠ CensusTables.empty := by
        intro other same persisted
        rw [same] at persisted ⊢
        exact persisted.recorded keeps.isSealed
      -- What does not write the status changes nothing else of a sealed set either.
      have stays : ∀ operation, .operation operation ∈ steps → ∀ request,
          operation.request? = some request → request.id = id →
            ∀ other, other = set.setStatus status → request.outcome other = set.setStatus status := by
        intro operation member request asked isOwn other same
        have isQuiet := quiet _ member
        rw [ServiceStep.writesStatusOf, asked, Option.any_some, decide_eq_true isOwn,
          Bool.and_true] at isQuiet
        rw [same]
        have stillSealed : (set.setStatus status).sealed = some sealed := keeps.isSealed
        exact CensusRequest.outcome_of_quiet stillSealed isQuiet
      obtain ⟨other, isOther, same⟩ := (told.run recorded stays ran).set
      refine ⟨other, isOther, ?_⟩
      rw [same, set.status_set_status fits]

theorem closing_is_final {before : Disk} {opened : Service} {steps more : List ServiceStep}
    {answers others : List ServiceAnswer} (formed : before.WellFormed)
    (known : before.HeldFilesKnown) (opening : (openNode before config).1 = .done opened)
    (ran : opened.run config steps = some (answers, service))
    (closes : (service.closeCensus id).1 = .ok ())
    (ranOn : (service.closeCensus id).2.run config more = some (others, last)) :
    ClosedSince config service id last := by
  have inUse := in_use_of_run formed known opening ran
  obtain ⟨old, sealed, isOld, start⟩ := inUse.close_census closes
  have after := start.run (fun set keeps persisted => persisted.recorded keeps.isSealed)
    (fun _ _ request _ _ set keeps => keeps.outcome request) ranOn
  exact after.closed_since isOld

def filled : List ServiceStep :=
  [.operation .newCensus, .operation (.addKeys ⟨0⟩ [sharedKey])]

def tried : List ServiceStep :=
  [.operation (.ingest ⟨0⟩ [] .epoch), .restart, .operation (.addKeys ⟨0⟩ [sharedKey])]

def membersOf (answer : Except ServiceError CensusInfo) : Option (CensusState × Nat) :=
  answer.toOption.map fun info => (info.state, info.members)

/-- A census with a member is closed, and stays so with it. -/
theorem usual_closing_is_final :
    ∃ opened answers service others last,
      (openNode blankDisk usualSite.config).1 = .done opened ∧
      opened.run usualSite.config filled = some (answers, service) ∧
      (service.closeCensus ⟨0⟩).1 = .ok () ∧
      (service.closeCensus ⟨0⟩).2.run usualSite.config tried = some (others, last) ∧
      ClosedSince usualSite.config service ⟨0⟩ last ∧
      membersOf (last.censusInfo ⟨0⟩).1 = some (.closed, 1) := by
  have computed : (opened? blankDisk usualSite.config).bind (fun opened =>
      (opened.run usualSite.config filled).map fun ran =>
        ((ran.2.closeCensus ⟨0⟩).1.toOption,
          ((ran.2.closeCensus ⟨0⟩).2.run usualSite.config tried).map fun after =>
            membersOf (after.2.censusInfo ⟨0⟩).1)) =
      some (some (), some (some (.closed, 1))) := by
    decide +kernel
  obtain ⟨opened, found, runs⟩ := Option.bind_eq_some_iff.mp computed
  obtain ⟨⟨answers, service⟩, ran, both⟩ := Option.map_eq_some_iff.mp runs
  obtain ⟨isClosed, further⟩ := Prod.mk.inj both
  obtain ⟨⟨others, last⟩, ranOn, members⟩ := Option.map_eq_some_iff.mp further
  have opening := opened_eq_some found
  have known : blankDisk.HeldFilesKnown := fun _ held => by cases held
  have closes := Registry.eq_ok_of_to_option isClosed
  exact ⟨opened, answers, service, others, last, opening, ran, closes, ranOn,
    closing_is_final blank_disk_well_formed known opening ran closes ranOn, members⟩

end Service

end CensusNode
