import CensusNode.Proofs.Census.Resubmission
import CensusNode.Proofs.Service.Closing

/-!
Batches for an open census. Each key of a batch is judged by the members and by the keys before it; a
batch without refused keys is taken as a whole, any other changes nothing. A batch can be cut into
consecutive ones, and one that was refused is taken once all of its refused keys are dropped. All of
this holds at the end of every run of a node whose stores had orderly tables at first. Requests of any
kind leave such tables where they find them.
-/

namespace CensusNode

open IdentitySet (rejections)

namespace IdentitySet

variable {set : IdentitySet} {batch first second : List PublicKey}

theorem sealed_of_open (isOpen : set.state = .opened) : set.sealed = none := by
  cases isSealed : set.sealed with
  | none => rfl
  | some sealed =>
      rw [state_of_sealed isSealed] at isOpen
      cases isOpen

theorem add_keys_of_open (isOpen : set.sealed = none) (batch : List PublicKey) :
    set.addKeys batch = .ok (rejections set.tables [] 0 batch, set.submit batch) := by
  rw [submit]
  simp only [addKeys, isOpen]
  cases rejections set.tables [] 0 batch <;> rfl

theorem submit_of_accepted (isOpen : set.sealed = none)
    (accepted : rejections set.tables [] 0 batch = []) :
    set.submit batch = { set with
      tables := set.tables.append set.tables.memberCount (batch.map PublicKey.bytes) } := by
  simp only [submit, addKeys, isOpen, accepted]

theorem submit_open (isOpen : set.sealed = none) (batch : List PublicKey) :
    (set.submit batch).sealed = none := by
  obtain ⟨-, -, ⟨-, same⟩ | ⟨-, grown⟩⟩ := add_keys_cases (add_keys_of_open isOpen batch)
  · rw [same]
    exact isOpen
  · rw [grown]
    exact isOpen

theorem submit_nil (isOpen : set.sealed = none) : set.submit [] = set :=
  submit_of_accepted isOpen rfl

/-- A set with a batch after its members, and otherwise as it was. -/
structure Extends (set : IdentitySet) (batch : List PublicKey) (after : IdentitySet) : Prop where
  enrolled : after.tables.Enrolled (set.tables.memberKeys ++ batch.map PublicKey.bytes)
  others : after = { set with tables := { set.tables with
    members := after.tables.members, lookup := after.tables.lookup } }

theorem extends_submit (isOpen : set.sealed = none) (orderly : set.tables.Orderly)
    (accepted : rejections set.tables [] 0 batch = []) : set.Extends batch (set.submit batch) := by
  rw [submit_of_accepted isOpen accepted]
  constructor
  · exact orderly.append accepted
  · rw [← CensusTables.append_eq]

theorem accepts_append_iff (isOpen : set.sealed = none) (orderly : set.tables.Orderly) :
    rejections set.tables [] 0 (first ++ second) = [] ↔
      rejections set.tables [] 0 first = [] ∧
        rejections (set.submit first).tables [] 0 second = [] := by
  rw [orderly.accepts_append_iff]
  apply and_congr_right
  intro isFirst
  rw [submit_of_accepted isOpen isFirst]

/-- Two batches leave what they leave as one, when both are accepted. -/
theorem submit_append (isOpen : set.sealed = none) (orderly : set.tables.Orderly)
    (accepted : rejections set.tables [] 0 (first ++ second) = []) :
    set.submit (first ++ second) = (set.submit first).submit second := by
  obtain ⟨isFirst, isSecond⟩ := (accepts_append_iff isOpen orderly).mp accepted
  rw [submit_of_accepted isOpen accepted, submit_of_accepted (submit_open isOpen first) isSecond,
    submit_of_accepted isOpen isFirst, orderly.append_append isFirst]

theorem orderly_submit (orderly : set.tables.Orderly) (batch : List PublicKey) :
    (set.submit batch).tables.Orderly := by
  rw [submit]
  cases added : set.addKeys batch with
  | error fault => exact orderly
  | ok pair =>
      obtain ⟨-, isReport, ⟨-, same⟩ | ⟨none_refused, grown⟩⟩ := add_keys_cases added
      · simp only [same]
        exact orderly
      · rw [none_refused, eq_comm] at isReport
        simp only [grown]
        exact (orderly.append isReport).orderly

theorem orderly_set_status (orderly : set.tables.Orderly) (status : CensusStatus) :
    (set.setStatus status).tables.Orderly := by
  have kept := set.same_membership_set_status status
  exact (CensusTables.Enrolled.of_same orderly kept.members kept.lookup).orderly

theorem orderly_close (orderly : set.tables.Orderly) : set.close.tables.Orderly := by
  obtain ⟨sameMembers, sameLookup⟩ := set.close_members
  exact (CensusTables.Enrolled.of_same orderly sameMembers sameLookup).orderly

end IdentitySet

theorem CensusRequest.passes_orderly (request : CensusRequest) :
    request.Passes CensusTables.Orderly := by
  intro set orderly
  cases request with
  | load id => exact orderly
  | root id => exact orderly
  | info id => exact orderly
  | close id => exact IdentitySet.orderly_close orderly
  | addKeys id keys => exact IdentitySet.orderly_submit orderly keys
  | ingest id keys now =>
      exact IdentitySet.orderly_set_status (IdentitySet.orderly_submit orderly keys) _
  | setStatus id status => exact IdentitySet.orderly_set_status orderly status

namespace Service

variable {service later last : Service} {id : CensusId} {set next : IdentitySet}
  {batch first second : List PublicKey}

theorem SharedKept.trans (before : SharedKept service later) (after : SharedKept later last) :
    SharedKept service last where
  counter := after.counter.trans before.counter
  ledger := after.ledger.trans before.ledger
  config := after.config.trans before.config
  content := by
    have kept := after.content
    rw [before.ledger] at kept
    exact kept.trans before.content

theorem SharedKept.meet {left right : Service} (toLeft : SharedKept service left)
    (toRight : SharedKept service right) : SharedKept left right where
  counter := toRight.counter.trans toLeft.counter.symm
  ledger := toRight.ledger.trans toLeft.ledger.symm
  config := toRight.config.trans toLeft.config.symm
  content := by
    rw [toLeft.ledger, toLeft.content]
    exact toRight.content

/-- A service with another set for one census, in its store too, and otherwise as it was. -/
structure ChangedTo (service : Service) (id : CensusId) (set : IdentitySet) (later : Service) :
    Prop where
  housed : later.IsHoused
  isSet : later.registry.setAt id = .ok set
  recorded : later.registry.persisted id = .ok set.tables
  shared : SharedKept service later
  others : ∀ other, other ≠ id → Registry.Unchanged other service.registry later.registry

theorem ChangedTo.trans (before : service.ChangedTo id set later)
    (after : later.ChangedTo id next last) : service.ChangedTo id next last where
  housed := after.housed
  isSet := after.isSet
  recorded := after.recorded
  shared := before.shared.trans after.shared
  others other different := (before.others other different).trans (after.others other different)

/-- Services that were changed to the same set cannot be told apart. -/
theorem ChangedTo.preserved {left right : Service} (toLeft : service.ChangedTo id set left)
    (toRight : service.ChangedTo id set right) : Preserved left right := by
  apply (toLeft.shared.meet toRight.shared).preserved
  intro other
  by_cases isOwn : other = id
  · rw [isOwn]
    exact ⟨toRight.isSet.trans toLeft.isSet.symm, toRight.recorded.trans toLeft.recorded.symm⟩
  · have onLeft := toLeft.others other isOwn
    have onRight := toRight.others other isOwn
    exact ⟨onRight.set.trans onLeft.set.symm, onRight.persisted.trans onLeft.persisted.symm⟩

theorem IsHoused.changed_to (housed : service.IsHoused) (request : CensusRequest)
    (isSet : service.registry.setAt request.id = .ok set) :
    service.ChangedTo request.id (request.outcome set)
      { service with registry := service.registry.serve request } := by
  obtain ⟨⟨_, _, after⟩, shared, unchanged⟩ := housed.serve request
  obtain ⟨name, above, rooms⟩ := housed
  have isAfter := rooms.set_at_serve request
  rw [isSet] at isAfter
  constructor
  · exact ⟨_, _, after⟩
  · exact isAfter
  · exact after.persisted_of_set_at isAfter
  · exact shared
  · exact fun other different => unchanged other fun _ => different

theorem IsHoused.changed_to_add_keys (housed : service.IsHoused)
    (isSet : service.registry.setAt id = .ok set) (batch : List PublicKey) :
    service.ChangedTo id (set.submit batch) (service.addKeys id batch).2 := by
  rw [addKeys, lift_snd]
  exact housed.changed_to (.addKeys id batch) isSet

structure OpenAt (service : Service) (id : CensusId) (set : IdentitySet) : Prop where
  housed : service.IsHoused
  isSet : service.registry.setAt id = .ok set
  isOpen : set.sealed = none
  orderly : set.tables.Orderly

theorem OpenAt.changed_to_self (openAt : service.OpenAt id set) :
    service.ChangedTo id set service where
  housed := openAt.housed
  isSet := openAt.isSet
  recorded := by
    obtain ⟨name, above, rooms⟩ := openAt.housed
    exact rooms.persisted_of_set_at openAt.isSet
  shared := ⟨rfl, rfl, rfl, rfl⟩
  others other _ := .refl other _

theorem OpenAt.answer (openAt : service.OpenAt id set) (batch : List PublicKey) :
    (service.addKeys id batch).1 = (Registry.batchAnswer id batch
      (.ok (rejections set.tables [] 0 batch))).mapError .registry := by
  rw [add_keys_answer, openAt.isSet]
  simp only [Registry.batchResult, IdentitySet.add_keys_of_open openAt.isOpen]

theorem OpenAt.accepts_iff (openAt : service.OpenAt id set) :
    (service.addKeys id batch).1 = .ok () ↔ rejections set.tables [] 0 batch = [] := by
  rw [openAt.answer]
  cases rejections set.tables [] 0 batch <;> simp [Registry.batchAnswer, Except.mapError]

theorem OpenAt.add_keys (openAt : service.OpenAt id set) (batch : List PublicKey) :
    (service.addKeys id batch).2.OpenAt id (set.submit batch) := by
  have changed := openAt.housed.changed_to_add_keys openAt.isSet batch
  constructor
  · exact changed.housed
  · exact changed.isSet
  · exact IdentitySet.submit_open openAt.isOpen batch
  · exact IdentitySet.orderly_submit openAt.orderly batch

theorem open_at_of_run {config : NodeConfig} {before : Disk} {opened : Service}
    {steps : List ServiceStep} {answers : List ServiceAnswer} (formed : before.WellFormed)
    (known : before.HeldFilesKnown) (stored : before.AllStores CensusTables.Orderly)
    (opening : (openNode before config).1 = .done opened)
    (ran : opened.run config steps = some (answers, service))
    (isSet : service.registry.setAt id = .ok set) (isOpen : set.state = .opened) :
    service.OpenAt id set := by
  have fresh := CensusTables.Enrolled.empty.orderly
  obtain ⟨inUse, records⟩ := records_of_run formed known opening fresh stored
    (fun _ _ request _ => request.passes_orderly) ran
  exact ⟨inUse.housed, isSet, IdentitySet.sealed_of_open isOpen, records.set inUse.housed isSet⟩

/-- A batch is taken by a census. All of its keys become members after the others, in order. -/
structure Takes (service : Service) (id : CensusId) (set : IdentitySet) (batch : List PublicKey)
    (after : IdentitySet) : Prop where
  added : set.addKeys batch = .ok ([], after)
  answer : (service.addKeys id batch).1 = .ok ()
  extended : set.Extends batch after
  changed : service.ChangedTo id after (service.addKeys id batch).2

/-- A batch of which keys are refused. The error tells how many, and of the first where and why. -/
structure Refuses (service : Service) (id : CensusId) (batch : List PublicKey)
    (first : RejectedKey) (rest : List RejectedKey) : Prop where
  least : ∀ other ∈ rest, first.index < other.index
  answer : (service.addKeys id batch).1 = .error (.registry
    (.invalidKeys id batch.length (first :: rest).length first.index first.reason))
  preserved : Preserved service (service.addKeys id batch).2

structure Judges (service : Service) (id : CensusId) (set : IdentitySet) (batch : List PublicKey)
    (report : List RejectedKey) (after : IdentitySet) : Prop where
  added : set.addKeys batch = .ok (report, after)
  reported : Reported set.tables.memberKeys batch report
  taken : report = [] → service.Takes id set batch after
  refused : ∀ first rest, report = first :: rest →
    after = set ∧ service.Refuses id batch first rest

theorem OpenAt.takes (openAt : service.OpenAt id set)
    (accepted : rejections set.tables [] 0 batch = []) :
    service.Takes id set batch (set.submit batch) where
  added := by rw [IdentitySet.add_keys_of_open openAt.isOpen, accepted]
  answer := openAt.accepts_iff.mpr accepted
  extended := IdentitySet.extends_submit openAt.isOpen openAt.orderly accepted
  changed := openAt.housed.changed_to_add_keys openAt.isSet batch

theorem OpenAt.judges (openAt : service.OpenAt id set) (batch : List PublicKey) :
    service.Judges id set batch (rejections set.tables [] 0 batch) (set.submit batch) := by
  have added := IdentitySet.add_keys_of_open openAt.isOpen batch
  have reported := openAt.orderly.reported batch
  refine ⟨added, reported, openAt.takes, ?_⟩
  intro first rest isReport
  have answer := openAt.answer batch
  rw [isReport] at added answer
  obtain ⟨-, -, ⟨-, same⟩ | ⟨none_refused, -⟩⟩ := IdentitySet.add_keys_cases added
  · have ascending := reported.ascending
    rw [isReport, List.map_cons, List.pairwise_cons] at ascending
    refine ⟨same, ?_, answer, openAt.housed.preserved_add_keys answer⟩
    intro other member
    exact ascending.1 _ (List.mem_map_of_mem member)
  · cases none_refused

/-- Every batch for an open census is judged, at the end of every run. -/
theorem batches_are_judged {config : NodeConfig} {before : Disk} {opened : Service}
    {steps : List ServiceStep} {answers : List ServiceAnswer} (formed : before.WellFormed)
    (known : before.HeldFilesKnown) (stored : before.AllStores CensusTables.Orderly)
    (opening : (openNode before config).1 = .done opened)
    (ran : opened.run config steps = some (answers, service))
    (isSet : service.registry.setAt id = .ok set) (isOpen : set.state = .opened)
    (batch : List PublicKey) : ∃ report after, service.Judges id set batch report after :=
  ⟨_, _, (open_at_of_run formed known stored opening ran isSet isOpen).judges batch⟩

def filledSet : IdentitySet := ⟨CensusTables.empty.append 0 [sharedKey.bytes], none⟩

theorem filled_census : ∃ opened answers service,
    (openNode blankDisk usualSite.config).1 = .done opened ∧
      opened.run usualSite.config filled = some (answers, service) ∧
      service.registry.setAt ⟨0⟩ = .ok filledSet := by
  have computed : (opened? blankDisk usualSite.config).bind (fun opened =>
      (opened.run usualSite.config filled).map fun ran => ran.2.registry.setAt ⟨0⟩) =
      some (.ok filledSet) := by
    decide +kernel
  obtain ⟨opened, found, runs⟩ := Option.bind_eq_some_iff.mp computed
  obtain ⟨⟨answers, service⟩, ran, isSet⟩ := Option.map_eq_some_iff.mp runs
  exact ⟨opened, answers, service, opened_eq_some found, ran, isSet⟩

theorem blank_disk_stores (kind : CensusTables → Prop) : blankDisk.AllStores kind :=
  fun _ member => by cases member

def freshKey : PublicKey := ⟨List.replicate 32 1⟩

def zeroKey : PublicKey := ⟨List.replicate 32 0⟩

/-- Keys that are refused for each of the reasons, and one that is not. -/
def mixedBatch : List PublicKey := [zeroKey, freshKey, ⟨[1, 2]⟩, freshKey, zeroKey, sharedKey]

def mixedReport : List RejectedKey :=
  [⟨0, .identityPoint⟩, ⟨2, .wrongLength 2⟩, ⟨3, .duplicateInBatch⟩, ⟨4, .identityPoint⟩,
    ⟨5, .duplicateInCensus⟩]

theorem mixed_batch_is_judged : ∃ opened answers service,
    (openNode blankDisk usualSite.config).1 = .done opened ∧
      opened.run usualSite.config filled = some (answers, service) ∧
      service.registry.setAt ⟨0⟩ = .ok filledSet ∧ filledSet.state = .opened ∧
      service.Judges ⟨0⟩ filledSet mixedBatch mixedReport filledSet := by
  obtain ⟨opened, answers, service, opening, ran, isSet⟩ := filled_census
  have known : blankDisk.HeldFilesKnown := fun _ held => by cases held
  have stored := blank_disk_stores CensusTables.Orderly
  obtain ⟨report, after, judged⟩ :=
    batches_are_judged blank_disk_well_formed known stored opening ran isSet rfl mixedBatch
  have computed : filledSet.addKeys mixedBatch = .ok (mixedReport, filledSet) := by decide
  have same := judged.added
  rw [computed, Except.ok.injEq, Prod.mk.injEq] at same
  rw [← same.1, ← same.2] at judged
  exact ⟨opened, answers, service, opening, ran, isSet, rfl, judged⟩

theorem OpenAt.takes_without_iff (openAt : service.OpenAt id set) {report : List RejectedKey}
    {after : IdentitySet} (added : set.addKeys batch = .ok (report, after)) {dropped : Finset Nat}
    (within : dropped ⊆ Reported.positions report) :
    ((∃ later, service.Takes id set (without dropped batch) later) ↔
      dropped = Reported.positions report) ∧
    ((service.addKeys id (without dropped batch)).1 = .ok () ↔
      dropped = Reported.positions report) := by
  obtain ⟨-, isReport, -⟩ := IdentitySet.add_keys_cases added
  rw [isReport] at within ⊢
  have accepts := openAt.orderly.accepts_without_iff within
  rw [openAt.accepts_iff, ← accepts]
  refine ⟨⟨?_, fun accepted => ⟨_, openAt.takes accepted⟩⟩, Iff.rfl⟩
  rintro ⟨later, taken⟩
  exact openAt.accepts_iff.mp taken.answer

/-- When some of its refused keys are dropped from a batch, the rest is taken exactly when no refused
key is left. -/
theorem batches_fit_without_refused_keys {config : NodeConfig} {before : Disk} {opened : Service}
    {steps : List ServiceStep} {answers : List ServiceAnswer} (formed : before.WellFormed)
    (known : before.HeldFilesKnown) (stored : before.AllStores CensusTables.Orderly)
    (opening : (openNode before config).1 = .done opened)
    (ran : opened.run config steps = some (answers, service))
    (isSet : service.registry.setAt id = .ok set) (isOpen : set.state = .opened)
    {report : List RejectedKey} {after : IdentitySet}
    (added : set.addKeys batch = .ok (report, after)) {dropped : Finset Nat}
    (within : dropped ⊆ Reported.positions report) :
    ((∃ later, service.Takes id set (without dropped batch) later) ↔
      dropped = Reported.positions report) ∧
    ((service.addKeys id (without dropped batch)).1 = .ok () ↔
      dropped = Reported.positions report) :=
  (open_at_of_run formed known stored opening ran isSet isOpen).takes_without_iff added within

theorem mixed_batch_fits : ∃ opened answers service,
    (openNode blankDisk usualSite.config).1 = .done opened ∧
      opened.run usualSite.config filled = some (answers, service) ∧
      filledSet.addKeys mixedBatch = .ok (mixedReport, filledSet) ∧
      (∃ later, service.Takes ⟨0⟩ filledSet [freshKey] later) ∧
      (service.addKeys ⟨0⟩ [freshKey, freshKey]).1 ≠ .ok () := by
  obtain ⟨opened, answers, service, opening, ran, isSet⟩ := filled_census
  have known : blankDisk.HeldFilesKnown := fun _ held => by cases held
  have stored := blank_disk_stores CensusTables.Orderly
  have added : filledSet.addKeys mixedBatch = .ok (mixedReport, filledSet) := by decide
  have fits {dropped : Finset Nat} (within : dropped ⊆ Reported.positions mixedReport) :=
    batches_fit_without_refused_keys blank_disk_well_formed known stored opening ran isSet rfl added
      within
  refine ⟨opened, answers, service, opening, ran, added, ?_, ?_⟩
  · exact (fits (Finset.Subset.refl _)).1.mpr rfl
  · have within : [0, 2, 4, 5].toFinset ⊆ Reported.positions mixedReport := by decide
    intro answer
    exact absurd ((fits within).2.mp answer) (by decide)

/-- Adds batches one after another, up to the first that is refused. -/
def addBatches (service : Service) (id : CensusId) :
    List (List PublicKey) → Except ServiceError Unit × Service
  | [] => (.ok (), service)
  | batch :: rest =>
      match service.addKeys id batch with
      | (.ok (), later) => later.addBatches id rest
      | (.error error, later) => (.error error, later)

theorem OpenAt.accepts_append_iff (openAt : service.OpenAt id set) :
    (service.addKeys id (first ++ second)).1 = .ok () ↔
      (service.addKeys id first).1 = .ok () ∧
        ((service.addKeys id first).2.addKeys id second).1 = .ok () := by
  have after := openAt.add_keys first
  rw [openAt.accepts_iff, openAt.accepts_iff, after.accepts_iff]
  exact IdentitySet.accepts_append_iff openAt.isOpen openAt.orderly

theorem OpenAt.changed_to_append (openAt : service.OpenAt id set)
    (accepted : (service.addKeys id (first ++ second)).1 = .ok ()) :
    service.ChangedTo id (set.submit (first ++ second))
      ((service.addKeys id first).2.addKeys id second).2 := by
  have once := openAt.housed.changed_to_add_keys openAt.isSet first
  rw [IdentitySet.submit_append openAt.isOpen openAt.orderly (openAt.accepts_iff.mp accepted)]
  exact once.trans (once.housed.changed_to_add_keys once.isSet second)

/-- Services on which keys have come after the members of a census, and that cannot be told apart. -/
structure Meet (id : CensusId) (set : IdentitySet) (keys : List PublicKey) (left right : Service) :
    Prop where
  census : ∃ after, set.Extends keys after ∧ left.registry.setAt id = .ok after ∧
    right.registry.setAt id = .ok after
  preserved : Preserved left right

theorem OpenAt.meet (openAt : service.OpenAt id set)
    (accepted : (service.addKeys id batch).1 = .ok ()) {other : Service}
    (changed : service.ChangedTo id (set.submit batch) other) :
    Meet id set batch (service.addKeys id batch).2 other := by
  have atOnce := openAt.housed.changed_to_add_keys openAt.isSet batch
  have isAccepted := openAt.accepts_iff.mp accepted
  have extended := IdentitySet.extends_submit openAt.isOpen openAt.orderly isAccepted
  exact ⟨⟨_, extended, atOnce.isSet, changed.isSet⟩, atOnce.preserved changed⟩

/-- The induction is on the batches that are left. The first of them is refused or leaves a census that
is open again, with its keys among the members. -/
theorem OpenAt.add_batches (openAt : service.OpenAt id set) (batches : List (List PublicKey)) :
    ((service.addKeys id batches.flatten).1 = .ok () ↔ (service.addBatches id batches).1 = .ok ()) ∧
      ((service.addKeys id batches.flatten).1 = .ok () →
        service.ChangedTo id (set.submit batches.flatten) (service.addBatches id batches).2) := by
  induction batches generalizing service set with
  | nil =>
      have same : set.submit [] = set := IdentitySet.submit_nil openAt.isOpen
      rw [List.flatten_nil, addBatches, same, openAt.accepts_iff]
      exact ⟨⟨fun _ => rfl, fun _ => rfl⟩, fun _ => openAt.changed_to_self⟩
  | cons batch rest induction =>
      have once := openAt.housed.changed_to_add_keys openAt.isSet batch
      obtain ⟨accepts, changes⟩ := induction (openAt.add_keys batch)
      have joined : (service.addKeys id (batch ++ rest.flatten)).1 = .ok () ↔
          (service.addKeys id batch).1 = .ok () ∧
            ((service.addKeys id batch).2.addKeys id rest.flatten).1 = .ok () :=
        openAt.accepts_append_iff
      rw [List.flatten_cons]
      cases answered : service.addKeys id batch with
      | mk answer later =>
          rw [answered] at joined once accepts changes
          rw [addBatches, answered]
          cases answer with
          | error error =>
              constructor
              · rw [joined]
                simp
              · intro accepted
                cases (joined.mp accepted).1
          | ok value =>
              constructor
              · rw [joined, ← accepts]
                simp
              · intro accepted
                have isJoined := openAt.accepts_iff.mp accepted
                rw [IdentitySet.submit_append openAt.isOpen openAt.orderly isJoined]
                exact once.trans (changes (joined.mp accepted).2)

/-- Batches for an open census can be cut and joined. -/
theorem batches_can_be_cut {config : NodeConfig} {before : Disk} {opened : Service}
    {steps : List ServiceStep} {answers : List ServiceAnswer} (formed : before.WellFormed)
    (known : before.HeldFilesKnown) (stored : before.AllStores CensusTables.Orderly)
    (opening : (openNode before config).1 = .done opened)
    (ran : opened.run config steps = some (answers, service))
    (isSet : service.registry.setAt id = .ok set) (isOpen : set.state = .opened) :
    (∀ first second,
      ((service.addKeys id (first ++ second)).1 = .ok () ↔
        (service.addKeys id first).1 = .ok () ∧
          ((service.addKeys id first).2.addKeys id second).1 = .ok ()) ∧
      ((service.addKeys id (first ++ second)).1 = .ok () →
        Meet id set (first ++ second) (service.addKeys id (first ++ second)).2
          ((service.addKeys id first).2.addKeys id second).2)) ∧
    ∀ batches : List (List PublicKey),
      ((service.addKeys id batches.flatten).1 = .ok () ↔
        (service.addBatches id batches).1 = .ok ()) ∧
      ((service.addKeys id batches.flatten).1 = .ok () →
        Meet id set batches.flatten (service.addKeys id batches.flatten).2
          (service.addBatches id batches).2) := by
  have openAt := open_at_of_run formed known stored opening ran isSet isOpen
  constructor
  · intro first second
    refine ⟨openAt.accepts_append_iff, ?_⟩
    intro accepted
    exact openAt.meet accepted (openAt.changed_to_append accepted)
  · intro batches
    obtain ⟨accepts, changes⟩ := openAt.add_batches batches
    exact ⟨accepts, fun accepted => openAt.meet accepted (changes accepted)⟩

def otherKey : PublicKey := ⟨List.replicate 32 2⟩

theorem two_keys_can_be_cut : ∃ opened answers service,
    (openNode blankDisk usualSite.config).1 = .done opened ∧
      opened.run usualSite.config filled = some (answers, service) ∧
      (service.addKeys ⟨0⟩ [freshKey, otherKey]).1 = .ok () ∧
      Meet ⟨0⟩ filledSet [freshKey, otherKey] (service.addKeys ⟨0⟩ [freshKey, otherKey]).2
        ((service.addKeys ⟨0⟩ [freshKey]).2.addKeys ⟨0⟩ [otherKey]).2 := by
  obtain ⟨opened, answers, service, opening, ran, isSet⟩ := filled_census
  have known : blankDisk.HeldFilesKnown := fun _ held => by cases held
  have stored := blank_disk_stores CensusTables.Orderly
  have answer : (service.addKeys ⟨0⟩ [freshKey, otherKey]).1 = .ok () := by
    rw [add_keys_answer, isSet]
    decide
  obtain ⟨pairs, -⟩ := batches_can_be_cut blank_disk_well_formed known stored opening ran isSet rfl
  exact ⟨opened, answers, service, opening, ran, answer, (pairs [freshKey] [otherKey]).2 answer⟩

end Service

end CensusNode
