import CensusNode.Proofs.Ledger.AnyOpening
import CensusNode.Proofs.Registry.Allocation
import CensusNode.Proofs.Registry.Tenants
import CensusNode.Proofs.Service.Runs

/-!
Tenants of one node. What a census is asked for in a run is answered as if nothing else had been asked
of the node, and nothing that it is asked for changes another census, the counter of identifiers or
the ledger. What only reads changes nothing, although a census that is read for the first time is
loaded.
-/

namespace CensusNode

/-- What an opening of a ledger leaves of a disk: files may have lost their names, but no file that
was there has a new one, and a store that somebody has open is as it was. -/
structure Ledger.Beside (disk after : Disk) (ledger : OpenLedger) : Prop where
  formed : after.WellFormed
  extended : disk.Extends after
  held : after.held = disk.held
  longer : disk.contents.length ≤ after.contents.length
  old : ∀ place file, file < disk.contents.length → after.fileAt? place = some file →
    disk.fileAt? place = some file
  stores : ∀ file store, disk.isHeld file = true → disk.content file = .store store →
    after.content file = .store store
  table : (after.content ledger.file).hasTable = true
  log : ∀ log, ledger.log = some log → ledger.file ≠ log ∧
    ∃ place, after.fileAt? (Ledger.logOf place) = some log

theorem Ledger.beside_of_open {disk after : Disk} {path : String} {config : LedgerConfig}
    {ledger : OpenLedger} (formed : disk.WellFormed) (known : disk.HeldFilesKnown)
    (opened : Ledger.openAt disk path config = (.done ledger, after)) :
    Ledger.Beside disk after ledger := by
  rcases Ledger.open_at_done formed opened with
    ⟨_, made, -, grows, madeFormed, isLedger, isAfter⟩ | ⟨target, options, -, visited, stands⟩
  · rw [isAfter, isLedger]
    constructor
    · exact madeFormed.create_unnamed
    · exact ⟨grows.working_directory, grows.directories⟩
    · exact grows.held
    · simp only [Disk.createUnnamed, List.length_append, grows.contents]
      omega
    · intro place file _ named
      rw [← grows.file_at]
      exact named
    · intro file store held holds
      have inRange := known file held
      rw [← grows.contents] at inRange
      rw [Disk.content_create_unnamed_of_lt inRange, grows.content, holds]
    · rw [Disk.content_create_unnamed_self]
      rfl
    · intro log isLog
      cases isLog
  · have apart {log : FileId} (isLog : ledger.log = some log) : ledger.file ≠ log := by
      have named := stands.log log isLog
      have different : Ledger.logOf (Ledger.ledgerPlace disk target) ≠
          Ledger.ledgerPlace disk target := by
        intro same
        have member := Ledger.log_mem_companions (Ledger.ledgerPlace disk target)
        rw [same] at member
        exact stands.apart member
      exact (visited.formed.file_ne stands.named named different).symm
    constructor
    · exact visited.formed
    · exact visited.extended
    · exact visited.held
    · exact visited.longer
    · exact visited.old
    · intro file store held holds
      rw [visited.owned file ?_ held, holds]
      intro isLedger
      rw [isLedger] at holds
      exact stands.ledger_only store holds
    · exact stands.table
    · exact fun log isLog => ⟨apart isLog, _, stands.log log isLog⟩

namespace Registry

variable {config : NodeConfig} {disk after : Disk} {registry : Registry} {next : CensusId}
  {ledger : OpenLedger}

theorem rooted_of_located (valid : config.validate = .ok ()) {place : Location}
    (located : disk.locate config.controlPath = .ok place) :
    ∃ above, Rooted config.censusRootPath config.storage.censusDirectory above disk ∧
      place = config.storage.controlFile :: above := by
  obtain ⟨isControl, isCensuses⟩ := NodeConfig.names_of_validate valid
  rw [Disk.locate_eq_ok_iff, NodeConfig.controlPath, Path.segments_join _ isControl.plain,
    List.dropLast_concat, List.getLast?_concat, Option.getD_some, Disk.origin,
    Path.is_absolute_join _ isControl.plain, ← Disk.origin] at located
  obtain ⟨-, above, walked, -, -, isPlace⟩ := located
  refine ⟨above, ⟨isCensuses, Path.stem config.dataDirectory, ?_, ?_⟩, isPlace⟩
  · exact Path.stem_join _ isCensuses.plain isCensuses.ne_empty
  · rw [Disk.origin, NodeConfig.censusRootPath, Path.is_absolute_join _ isCensuses.plain,
      ← Disk.origin, walked]

/-- A registry that was just opened is apart from a ledger that is opened beside it. -/
theorem housed_of_beside (valid : config.validate = .ok ())
    (counts : Counts config.controlPath next registry)
    (root : registry.censusRoot = config.censusRootPath) (none : registry.loaded = [])
    (beside : Ledger.Beside registry.disk after ledger) :
    IsHoused ledger { registry with disk := after } := by
  obtain ⟨place, located, named⟩ := counts.placed
  obtain ⟨above, rooted, isPlace⟩ := rooted_of_located valid located
  obtain ⟨store, holds, -⟩ := counts.counter
  rw [← root] at rooted
  refine ⟨config.storage.censusDirectory, above, ?_⟩
  constructor
  · exact beside.formed
  · intro file held
    rw [Disk.isHeld, beside.held, ← Disk.isHeld] at held
    exact Nat.lt_of_lt_of_le (counts.known file held) beside.longer
  · exact rooted.extends beside.extended
  · rw [Disk.isHeld, beside.held, ← Disk.isHeld]
    exact counts.held
  · exact ⟨store, beside.stores _ store counts.held holds⟩
  · intro id isStore
    -- The file got no new name, and the one that it had lies higher up than any store.
    have before := beside.old _ _ (counts.known _ counts.held) isStore
    rw [store_place_extends beside.extended] at before
    have lengths := congrArg List.length (counts.formed.single _ _ _ before named)
    rw [isPlace, storePlace, rooted.censuses_place] at lengths
    simp only [List.length_cons] at lengths
    omega
  · intro census member
    simp only [none] at member
    cases member
  · exact beside.table
  · exact beside.log

end Registry

namespace Service

variable {config : NodeConfig} {service : Service}

def IsHoused (service : Service) : Prop := Registry.IsHoused service.ledger service.registry

theorem housed_of_open {before : Disk} (formed : before.WellFormed) (known : before.HeldFilesKnown)
    (opened : (openNode before config).1 = .done service) : service.IsHoused := by
  obtain ⟨valid, registry, disk, after, starting, ledgers, isService⟩ := open_node_spec opened
  obtain ⟨next, counts⟩ := Registry.Counts.of_open_at formed known starting
  obtain ⟨location, store, _, seeded, -, -, isRegistry, isDisk⟩ :=
    Registry.open_at_eq_ok formed known starting
  rw [isDisk] at ledgers
  have beside := Ledger.beside_of_open counts.formed counts.known ledgers
  rw [IsHoused, isService]
  apply Registry.housed_of_beside valid counts ?_ ?_ beside
  · rw [isRegistry]
    rfl
  · rw [isRegistry]
    rfl

end Service

/-- What a node is asked: an operation of its service, or which identifier is allocated next. -/
inductive NodeOperation where
  | service (operation : ServiceOperation)
  | nextCensusId

def ServiceOperation.request? : ServiceOperation → Option CensusRequest
  | newCensus => none
  | closeCensus id => some (.close id)
  | censusRoot id => some (.root id)
  | censusInfo id => some (.info id)
  | addKeys id keys => some (.addKeys id keys)
  | ingest id keys now => some (.ingest id keys now)
  | setStatus id status => some (.setStatus id status)
  | storeVote _ _ _ => none
  | votesByRoot _ => none
  | votePage _ _ _ => none
  | vote _ => none

namespace NodeOperation

def request? : NodeOperation → Option CensusRequest
  | service operation => operation.request?
  | nextCensusId => none

def isTo (id : CensusId) (operation : NodeOperation) : Bool :=
  operation.request?.map CensusRequest.id = some id

def isRead : NodeOperation → Bool
  | service (.censusRoot _) => true
  | service (.censusInfo _) => true
  | service (.votesByRoot _) => true
  | service (.votePage _ _ _) => true
  | service (.vote _) => true
  | nextCensusId => true
  | _ => false

end NodeOperation

namespace Service

variable {service left right : Service} {id : CensusId} {operation : NodeOperation}

def ask (service : Service) : NodeOperation → ServiceAnswer × Service
  | .service operation => service.perform operation
  | .nextCensusId => (.identifier (service.lift (service.registry.nextId, service.registry)).1, service)

def transcript : Service → List NodeOperation → List (NodeOperation × ServiceAnswer)
  | _, [] => []
  | service, operation :: rest =>
      (operation, (service.ask operation).1) :: transcript (service.ask operation).2 rest

def after (service : Service) (operations : List NodeOperation) : Service :=
  operations.foldl (fun service operation => (service.ask operation).2) service

/-- The counter of identifiers and the ledger are as they were, its file included. -/
structure SharedKept (service later : Service) : Prop where
  counter : later.registry.nextId = service.registry.nextId
  ledger : later.ledger = service.ledger
  config : later.config = service.config
  content : later.disk.content service.ledger.file = service.disk.content service.ledger.file

theorem lift_snd {α : Type} (service : Service) (answer : Except RegistryError α × Registry) :
    (service.lift answer).2 = { service with registry := answer.2 } := by
  rw [lift]
  split <;> rfl

theorem lift_fst {α : Type} {answer other : Except RegistryError α × Registry}
    (same : answer.1 = other.1) : (left.lift answer).1 = (right.lift other).1 := by
  rw [lift, lift, same]
  cases other.1 <;> rfl

theorem ask_of_request {request : CensusRequest} (asked : operation.request? = some request) :
    (service.ask operation).2 = { service with registry := service.registry.serve request } := by
  cases operation with
  | nextCensusId => cases asked
  | service operation =>
      cases operation with
      | ingest id keys now =>
          cases asked
          rfl
      | _ =>
          -- Allocations and the ledger are no requests; whatever else there is, is lifted.
          cases asked
          all_goals exact service.lift_snd _

theorem IsHoused.serve (housed : service.IsHoused) (request : CensusRequest) :
    IsHoused { service with registry := service.registry.serve request } ∧
      SharedKept service { service with registry := service.registry.serve request } ∧
      ∀ id, (request.writes = true → id ≠ request.id) →
        Registry.Unchanged id service.registry (service.registry.serve request) := by
  obtain ⟨name, above, housed⟩ := housed
  obtain ⟨after, shared, unchanged⟩ := housed.serve request
  refine ⟨⟨name, above, after⟩, ⟨?_, rfl, rfl, shared.ledger⟩, unchanged⟩
  simp only [Registry.nextId, Disk.storeAt, shared.control, shared.counter]

theorem IsHoused.store_vote (housed : service.IsHoused) (root : CensusRoot) (package : VotePackage)
    (now : Instant) : (service.storeVote root package now).2.IsHoused ∧
      ∀ id, Registry.Unchanged id service.registry
        (service.storeVote root package now).2.registry := by
  have unasked : service.IsHoused ∧ ∀ id, Registry.Unchanged id service.registry service.registry :=
    ⟨housed, fun id => .refl id _⟩
  rw [storeVote]
  split
  · exact unasked
  · split
    · rename_i rows _
      obtain ⟨name, above, housed⟩ := housed
      exact ⟨⟨name, above, (housed.put_rows rows ⟨0⟩).1⟩, fun id => (housed.put_rows rows id).2⟩
    · exact unasked

/-- Whatever a node is asked changes no census that it is not addressed to. -/
theorem IsHoused.ask (housed : service.IsHoused) (operation : NodeOperation) :
    (service.ask operation).2.IsHoused ∧ ∀ id, operation.isTo id = false →
      Registry.Unchanged id service.registry (service.ask operation).2.registry := by
  cases asked : operation.request? with
  | some request =>
      rw [ask_of_request asked]
      obtain ⟨after, -, unchanged⟩ := housed.serve request
      refine ⟨after, fun id notTo => unchanged id fun _ same => ?_⟩
      simp [NodeOperation.isTo, asked, same] at notTo
  | none =>
      have unasked : service.IsHoused ∧ ∀ id, operation.isTo id = false →
          Registry.Unchanged id service.registry service.registry :=
        ⟨housed, fun id _ => .refl id _⟩
      cases operation with
      | nextCensusId => exact unasked
      | service operation =>
          cases operation with
          | newCensus =>
              obtain ⟨name, above, housed⟩ := housed
              obtain ⟨after, unchanged⟩ := housed.new_census
              change (service.lift _).2.IsHoused ∧ ∀ id, _ → Registry.Unchanged id _
                (service.lift _).2.registry
              rw [lift_snd]
              exact ⟨⟨name, above, after⟩, fun id _ => unchanged id⟩
          | storeVote root package now =>
              obtain ⟨after, unchanged⟩ := housed.store_vote root package now
              exact ⟨after, fun id _ => unchanged id⟩
          | votesByRoot root => exact unasked
          | votePage root cursor limit => exact unasked
          | vote index => exact unasked
          | closeCensus id => cases asked
          | censusRoot id => cases asked
          | censusInfo id => cases asked
          | addKeys id keys => cases asked
          | ingest id keys now => cases asked
          | setStatus id status => cases asked

theorem IsHoused.after (housed : service.IsHoused) (operations : List NodeOperation) :
    (service.after operations).IsHoused := by
  induction operations generalizing service with
  | nil => exact housed
  | cons operation rest induction => exact induction (housed.ask operation).1

theorem lift_aligned {α : Type} (left right : Service)
    {answer other : Except RegistryError α × Registry}
    (agree : answer.1 = other.1 ∧ Registry.Aligned id answer.2 other.2) :
    (left.lift answer).1 = (right.lift other).1 ∧
      Registry.Aligned id (left.lift answer).2.registry (right.lift other).2.registry := by
  rw [lift_snd, lift_snd]
  exact ⟨lift_fst agree.1, agree.2⟩

theorem ask_aligned {request : CensusRequest} (asked : operation.request? = some request)
    (aligned : Registry.Aligned request.id left.registry right.registry) :
    (left.ask operation).1 = (right.ask operation).1 ∧ Registry.Aligned request.id
      (left.ask operation).2.registry (right.ask operation).2.registry := by
  cases operation with
  | nextCensusId => cases asked
  | service operation =>
      cases operation with
      | closeCensus id =>
          cases asked
          obtain ⟨same, after⟩ := lift_aligned left right (aligned.update _)
          exact ⟨congrArg ServiceAnswer.done same, after⟩
      | censusRoot id =>
          cases asked
          obtain ⟨same, after⟩ := lift_aligned left right (aligned.query _)
          exact ⟨congrArg ServiceAnswer.root same, after⟩
      | censusInfo id =>
          cases asked
          obtain ⟨same, after⟩ := lift_aligned left right (aligned.query _)
          exact ⟨congrArg ServiceAnswer.summary same, after⟩
      | addKeys id keys =>
          cases asked
          obtain ⟨same, after⟩ := lift_aligned left right (aligned.add_keys keys)
          exact ⟨congrArg ServiceAnswer.done same, after⟩
      | ingest id keys now =>
          cases asked
          exact ⟨rfl, aligned.ingest keys now⟩
      | setStatus id status =>
          cases asked
          obtain ⟨same, after⟩ := lift_aligned left right (aligned.update _)
          exact ⟨congrArg ServiceAnswer.done same, after⟩
      | newCensus => cases asked
      | storeVote root package now => cases asked
      | votesByRoot root => cases asked
      | votePage root cursor limit => cases asked
      | vote index => cases asked

theorem request_of_is_to (isTo : operation.isTo id = true) :
    ∃ request, operation.request? = some request ∧ request.id = id := by
  rw [NodeOperation.isTo, decide_eq_true_eq] at isTo
  exact Option.map_eq_some_iff.mp isTo

/-- What a census is answered in a run is what it is answered in the run of its own operations. -/
theorem transcript_aligned (housed : left.IsHoused)
    (aligned : Registry.Aligned id left.registry right.registry) (operations : List NodeOperation) :
    (left.transcript operations).filter (fun entry => entry.1.isTo id) =
      right.transcript (operations.filter fun operation => operation.isTo id) := by
  -- Both nodes stay general: what is not asked of the census changes the first one only.
  induction operations generalizing left right with
  | nil => rfl
  | cons operation rest induction =>
      obtain ⟨after, unchanged⟩ := housed.ask operation
      rw [transcript]
      cases isTo : operation.isTo id with
      | false =>
          rw [List.filter_cons_of_neg (by simp [isTo]), List.filter_cons_of_neg (by simp [isTo])]
          exact induction after (aligned.of_unchanged after (unchanged id isTo))
      | true =>
          obtain ⟨request, asked, isId⟩ := request_of_is_to isTo
          rw [← isId] at aligned
          obtain ⟨same, alignedAfter⟩ := ask_aligned asked aligned
          rw [isId] at alignedAfter
          rw [List.filter_cons_of_pos (by simp [isTo]), List.filter_cons_of_pos (by simp [isTo]),
            transcript, same, induction after alignedAfter]

/-- What only reads changes neither the identifiers nor the ledger nor any census. -/
theorem IsHoused.ask_read (housed : service.IsHoused) (isRead : operation.isRead = true) :
    SharedKept service (service.ask operation).2 ∧
      ∀ id, Registry.Unchanged id service.registry (service.ask operation).2.registry := by
  cases asked : operation.request? with
  | some request =>
      have writes : request.writes = false := by
        cases operation with
        | nextCensusId => cases asked
        | service operation =>
            cases operation <;> cases isRead <;> cases asked <;> rfl
      rw [ask_of_request asked]
      obtain ⟨-, shared, unchanged⟩ := housed.serve request
      refine ⟨shared, fun id => unchanged id fun isWrite => ?_⟩
      rw [writes] at isWrite
      cases isWrite
  | none =>
      have same : (service.ask operation).2 = service := by
        cases operation with
        | nextCensusId => rfl
        | service operation =>
            cases operation <;> cases isRead <;> cases asked <;> rfl
      rw [same]
      exact ⟨⟨rfl, rfl, rfl, rfl⟩, fun id => .refl id _⟩

/-- The tenants of a node do not interfere. Whatever is asked of it, what a census is answered is what
it would be answered if nothing else was asked; an operation on one census leaves the others, the
counter of identifiers and the ledger as they were; and what only reads leaves everything so. -/
structure Isolates (service : Service) : Prop where
  answers : ∀ operations id,
    (service.transcript operations).filter (fun entry => entry.1.isTo id) =
      service.transcript (operations.filter fun operation => operation.isTo id)
  shared : ∀ operations operation id, operation.isTo id = true →
    SharedKept (service.after operations) ((service.after operations).ask operation).2
  others : ∀ operations operation id other, operation.isTo id = true → other ≠ id →
    Registry.Unchanged other (service.after operations).registry
      ((service.after operations).ask operation).2.registry
  reads : ∀ operations operation, operation.isRead = true →
    SharedKept (service.after operations) ((service.after operations).ask operation).2 ∧
      ∀ id, Registry.Unchanged id (service.after operations).registry
        ((service.after operations).ask operation).2.registry

/-- Tenants do not interfere, on whatever well-formed disk and with whatever configuration the node
was opened. -/
theorem tenants_do_not_interfere {config : NodeConfig} {before : Disk} (formed : before.WellFormed)
    (known : before.HeldFilesKnown) (opened : (openNode before config).1 = .done service) :
    service.Isolates := by
  have housed := housed_of_open formed known opened
  constructor
  · intro operations id
    exact transcript_aligned housed ⟨⟨_, housed⟩, ⟨_, housed⟩, rfl⟩ operations
  · intro operations operation id isTo
    obtain ⟨request, asked, -⟩ := request_of_is_to isTo
    rw [ask_of_request asked]
    exact ((housed.after operations).serve request).2.1
  · intro operations operation id other isTo different
    obtain ⟨request, asked, isId⟩ := request_of_is_to isTo
    rw [ask_of_request asked]
    refine ((housed.after operations).serve request).2.2 other fun _ same => ?_
    exact different (same.trans isId)
  · intro operations operation isRead
    exact (housed.after operations).ask_read isRead

/-- A key that two tenants take one after the other, and one of them for a second time. -/
def sharedKey : PublicKey := ⟨List.replicate 32 7⟩

def interleaved : List NodeOperation :=
  [.service .newCensus, .service (.addKeys ⟨1⟩ [sharedKey]), .service (.addKeys ⟨0⟩ [sharedKey]),
    .nextCensusId, .service (.addKeys ⟨1⟩ [sharedKey])]

def accepted (entries : List (NodeOperation × ServiceAnswer)) : List Bool :=
  entries.map fun entry => match entry.2 with
    | .done (.ok _) => true
    | _ => false

/-- A key is taken by both tenants, and each of them refuses it only for a second time. -/
theorem usual_node_isolates :
    ∃ service, (openNode blankDisk usualSite.config).1 = .done service ∧ service.Isolates ∧
      accepted ((service.transcript interleaved).filter fun entry => entry.1.isTo ⟨0⟩) = [true] ∧
      accepted ((service.transcript interleaved).filter fun entry => entry.1.isTo ⟨1⟩) =
        [true, false] := by
  have computed : (opened? blankDisk usualSite.config).map (fun service =>
      (accepted ((service.transcript interleaved).filter fun entry => entry.1.isTo ⟨0⟩),
        accepted ((service.transcript interleaved).filter fun entry => entry.1.isTo ⟨1⟩))) =
      some ([true], [true, false]) := by
    decide +kernel
  obtain ⟨service, found, both⟩ := Option.map_eq_some_iff.mp computed
  obtain ⟨first, second⟩ := Prod.mk.inj both
  have known : blankDisk.HeldFilesKnown := fun _ held => by cases held
  have opened := opened_eq_some found
  exact ⟨service, opened, tenants_do_not_interfere blank_disk_well_formed known opened, first,
    second⟩

end Service

end CensusNode
