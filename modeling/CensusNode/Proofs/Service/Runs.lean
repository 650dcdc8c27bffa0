import CensusNode.Proofs.Service.Restart

/-!
Runs of a service. What clients are answered does not depend on whether the service was restarted
in between, as long as the files of the node do not get in each other's way.
-/

namespace CensusNode

inductive ServiceOperation where
  | newCensus
  | closeCensus (id : CensusId)
  | censusRoot (id : CensusId)
  | censusInfo (id : CensusId)
  | addKeys (id : CensusId) (keys : List PublicKey)
  | ingest (id : CensusId) (keys : List PublicKey) (now : Instant)
  | setStatus (id : CensusId) (status : CensusStatus)
  | storeVote (root : CensusRoot) (package : VotePackage) (now : Instant)
  | votesByRoot (root : CensusRoot)
  | votePage (root : CensusRoot) (cursor : Option String) (limit : Nat)
  | vote (index : UInt64)

inductive ServiceAnswer where
  | identifier (answer : Except ServiceError CensusId)
  | done (answer : Except ServiceError Unit)
  | root (answer : Except ServiceError CensusRoot)
  | summary (answer : Except ServiceError CensusInfo)
  | nothing
  | packages (answer : Except ServiceError (List VotePackage))
  | page (answer : Except ServiceError VotePage)
  | package (answer : Except ServiceError StoredVotePackage)

/-- A step of a run: something is asked, or the service is closed and opened again. -/
inductive ServiceStep where
  | operation (operation : ServiceOperation)
  | restart

namespace Service

def perform (service : Service) : ServiceOperation → ServiceAnswer × Service
  | .newCensus => (.identifier service.newCensus.1, service.newCensus.2)
  | .closeCensus id => (.done (service.closeCensus id).1, (service.closeCensus id).2)
  | .censusRoot id => (.root (service.censusRoot id).1, (service.censusRoot id).2)
  | .censusInfo id => (.summary (service.censusInfo id).1, (service.censusInfo id).2)
  | .addKeys id keys => (.done (service.addKeys id keys).1, (service.addKeys id keys).2)
  | .ingest id keys now => (.nothing, service.ingest id keys now)
  | .setStatus id status => (.done (service.setStatus id status).1, (service.setStatus id status).2)
  | .storeVote root package now =>
      (.done (service.storeVote root package now).1, (service.storeVote root package now).2)
  | .votesByRoot root => (.packages (service.votesByRoot root), service)
  | .votePage root cursor limit => (.page (service.votePage root cursor limit), service)
  | .vote index => (.package (service.vote index), service)

/-- The answers of a run, and the service at its end. A run breaks off when the service cannot be
opened again. -/
def run (config : NodeConfig) : Service → List ServiceStep → Option (List ServiceAnswer × Service)
  | service, [] => some ([], service)
  | service, .operation operation :: rest =>
      (run config (service.perform operation).2 rest).map fun ran =>
        ((service.perform operation).1 :: ran.1, ran.2)
  | service, .restart :: rest => (service.restart config).bind fun again => run config again rest

def withoutRestarts (steps : List ServiceStep) : List ServiceStep :=
  steps.filter fun step => match step with
    | .operation _ => true
    | .restart => false

/-- Two sound services with the same rows on disks that look the same. -/
structure Twins (site : Site) (rows : List VoteRow) (left right : Service) : Prop where
  first : left.Sound site rows
  second : right.Sound site rows
  alike : Disk.Alike (Registry.hidden site) left.disk right.disk

variable {site : Site} {rows : List VoteRow} {left right service : Service}

theorem Twins.registries (twins : Twins site rows left right) :
    Registry.Twins site left.ledger right.ledger rows left.registry right.registry :=
  ⟨twins.first.registry, twins.second.registry, twins.alike⟩

theorem Twins.with_registries (twins : Twins site rows left right) {first second : Registry}
    (after : Registry.Twins site left.ledger right.ledger rows first second) :
    Twins site rows { left with registry := first } { right with registry := second } :=
  ⟨⟨after.first, twins.first.config⟩, ⟨after.second, twins.second.config⟩, after.alike⟩

theorem Twins.lift {α : Type} (twins : Twins site rows left right)
    {first second : Except RegistryError α × Registry}
    (agree : Registry.Agree site left.ledger right.ledger rows first second) :
    (left.lift first).1 = (right.lift second).1 ∧
      Twins site rows (left.lift first).2 (right.lift second).2 := by
  have after := twins.with_registries agree.twins
  rw [Service.lift, Service.lift, agree.answer]
  cases second.1 with
  | ok value => exact ⟨rfl, after⟩
  | error error => exact ⟨rfl, after⟩

theorem Twins.put_rows (usable : site.Usable) (twins : Twins site rows left right)
    (leftWrites : left.ledger.writable = true) (rightWrites : right.ledger.writable = true)
    (next : List VoteRow) : Twins site next (left.putRows next) (right.putRows next) where
  first := ⟨twins.first.registry.put_rows usable leftWrites next, twins.first.config⟩
  second := ⟨twins.second.registry.put_rows usable rightWrites next, twins.second.config⟩
  alike := twins.registries.put_rows next

theorem Sound.rows_eq (sound : service.Sound site rows) : service.rows = rows :=
  sound.registry.running.rows_eq

/-- Twins either both take rows or both refuse them. -/
theorem Twins.writable (twins : Twins site rows left right) :
    left.ledger.writable = right.ledger.writable := by
  have index := twins.alike.directories (Ledger.indexOf site.ledger)
  rw [twins.first.registry.running.writable, twins.second.registry.running.writable]
  exact congrArg not index

theorem Twins.store_vote (usable : site.Usable) (twins : Twins site rows left right)
    (root : CensusRoot) (package : VotePackage) (now : Instant) :
    (left.storeVote root package now).1 = (right.storeVote root package now).1 ∧
      ∃ next, Twins site next (left.storeVote root package now).2
        (right.storeVote root package now).2 := by
  unfold storeVote
  rw [twins.first.rows_eq, twins.second.rows_eq, twins.writable]
  split
  · exact ⟨rfl, rows, twins⟩
  · rename_i accepts
    cases stored : VoteRows.store rows root package now with
    | error error => exact ⟨rfl, rows, twins⟩
    | ok next =>
        have storable : VoteRows.isStorable package = true := by
          rw [VoteRows.store] at stored
          split at stored
          · cases stored
          · rename_i fits
            simpa using fits
        have writes : right.ledger.writable = true := by simpa [storable] using accepts
        exact ⟨rfl, next, twins.put_rows usable (twins.writable.trans writes) writes next⟩

theorem Twins.perform (usable : site.Usable) (twins : Twins site rows left right)
    (operation : ServiceOperation) :
    (left.perform operation).1 = (right.perform operation).1 ∧
      ∃ next, Twins site next (left.perform operation).2 (right.perform operation).2 := by
  have registries := twins.registries
  have sameRows : left.rows = right.rows := by rw [twins.first.rows_eq, twins.second.rows_eq]
  have sameConfig : left.config = right.config := by rw [twins.first.config, twins.second.config]
  cases operation with
  | newCensus =>
      obtain ⟨same, after⟩ := twins.lift (registries.new_census usable)
      exact ⟨congrArg ServiceAnswer.identifier same, rows, after⟩
  | closeCensus id =>
      obtain ⟨same, after⟩ := twins.lift (registries.close_census usable id)
      exact ⟨congrArg ServiceAnswer.done same, rows, after⟩
  | censusRoot id =>
      obtain ⟨same, after⟩ := twins.lift (registries.query usable id IdentitySet.root)
      exact ⟨congrArg ServiceAnswer.root same, rows, after⟩
  | censusInfo id =>
      obtain ⟨same, after⟩ := twins.lift (registries.query usable id (IdentitySet.info id))
      exact ⟨congrArg ServiceAnswer.summary same, rows, after⟩
  | addKeys id keys =>
      obtain ⟨same, after⟩ := twins.lift (registries.add_keys usable id keys)
      exact ⟨congrArg ServiceAnswer.done same, rows, after⟩
  | ingest id keys now =>
      exact ⟨rfl, rows, twins.with_registries (registries.ingest usable id keys now)⟩
  | setStatus id status =>
      obtain ⟨same, after⟩ := twins.lift (registries.set_status usable id status)
      exact ⟨congrArg ServiceAnswer.done same, rows, after⟩
  | storeVote root package now =>
      obtain ⟨same, next, after⟩ := twins.store_vote usable root package now
      exact ⟨congrArg ServiceAnswer.done same, next, after⟩
  | votesByRoot root =>
      refine ⟨?_, rows, twins⟩
      simp only [Service.perform, votesByRoot, sameRows]
  | votePage root cursor limit =>
      refine ⟨?_, rows, twins⟩
      simp only [Service.perform, votePage, sameRows, sameConfig]
  | vote index =>
      refine ⟨?_, rows, twins⟩
      simp only [Service.perform, Service.vote, sameRows]

theorem Twins.restart (usable : site.Usable) (twins : Twins site rows left right) :
    ∃ again, left.restart site.config = some again ∧ Twins site rows again right := by
  obtain ⟨again, restarted, sound, alike⟩ := twins.first.restart usable
  exact ⟨again, restarted, sound, twins.second, alike.symm.trans twins.alike⟩

/-- What a run with restarts answers is what its operations alone are answered by a twin. -/
theorem Twins.run (usable : site.Usable) (twins : Twins site rows left right)
    (steps : List ServiceStep) :
    ∃ answers last quiet next, left.run site.config steps = some (answers, last) ∧
      right.run site.config (withoutRestarts steps) = some (answers, quiet) ∧
      Twins site next last quiet := by
  induction steps generalizing left right rows with
  | nil => exact ⟨[], left, right, rows, rfl, rfl, twins⟩
  | cons step rest induction =>
      cases step with
      | operation operation =>
          obtain ⟨same, next, after⟩ := twins.perform usable operation
          obtain ⟨answers, last, quiet, final, ran, ranQuiet, stay⟩ := induction after
          refine ⟨(left.perform operation).1 :: answers, last, quiet, final, ?_, ?_, stay⟩
          · rw [Service.run, ran, Option.map_some]
          · rw [same]
            change Service.run site.config right (.operation operation :: withoutRestarts rest) = _
            rw [Service.run, ranQuiet, Option.map_some]
      | restart =>
          obtain ⟨again, restarted, after⟩ := twins.restart usable
          obtain ⟨answers, last, quiet, final, ran, ranQuiet, stay⟩ := induction after
          refine ⟨answers, last, quiet, final, ?_, ranQuiet, stay⟩
          rw [Service.run, restarted, Option.bind_some, ran]

theorem Sound.twins (sound : service.Sound site rows) : Twins site rows service service :=
  ⟨sound, sound, Disk.Alike.refl _ _⟩

/-- Every run goes through, however often the service is restarted on the way, and its answers are
those of the same operations without any restart; and each census loaded at its end is the one that
its store would be loaded as. -/
def HidesRestarts (config : NodeConfig) (service : Service) : Prop :=
  ∀ steps, ∃ answers last quiet, service.run config steps = some (answers, last) ∧
    service.run config (withoutRestarts steps) = some (answers, quiet) ∧
    ∀ census ∈ last.registry.loaded, (last.registry.setOf census).Persisted

/-- Restarts do not show. The service was opened on a well-formed disk of which nobody owns
anything. Its ledger lies at a plain path, in a file that is new or was left by a service. Its
control store is none of the files of the ledger, and its censuses do not lie in the place of the
journal. -/
theorem restarts_do_not_show {before : Disk} (formed : before.WellFormed)
    (free : before.held = []) (opened : (openNode before site.config).1 = .done service)
    (apart : site.Apart)
    (controlPlace : service.disk.locate site.config.controlPath = .ok site.control)
    (ledgerPlace : Ledger.locate before site.config.ledgerPath = some site.ledger)
    (own : ∀ content, before.file? site.ledger = some content → Ledger.IsOwn content) :
    service.HidesRestarts site.config := by
  obtain ⟨usable, rows, sound⟩ :=
    sound_of_open formed free opened apart controlPlace ledgerPlace own
  intro steps
  obtain ⟨answers, last, quiet, next, ran, ranQuiet, twins⟩ := sound.twins.run usable steps
  refine ⟨answers, last, quiet, ran, ranQuiet, ?_⟩
  intro census member
  exact (twins.first.registry.set_of member).2

def blankDisk : Disk := ⟨[], [], [], [], []⟩

theorem blank_disk_well_formed : blankDisk.WellFormed := Disk.nothing_well_formed

def usualSite : Site :=
  ⟨⟨"data", StorageConfig.defaults, LedgerConfig.defaults⟩, ["data"], ["votes.sqlite", "data"]⟩

def opened? (disk : Disk) (config : NodeConfig) : Option Service :=
  match (openNode disk config).1 with
  | .done service => some service
  | _ => none

theorem opened_eq_some {disk : Disk} {config : NodeConfig}
    (found : opened? disk config = some service) : (openNode disk config).1 = .done service := by
  unfold opened? at found
  split at found
  · rename_i opened isOpen
    rw [isOpen, Option.some.inj found]
  · cases found

theorem usual_node_hides_restarts :
    ∃ service, (openNode blankDisk usualSite.config).1 = .done service ∧
      service.HidesRestarts usualSite.config := by
  have located : (opened? blankDisk usualSite.config).map (fun service =>
      (service.disk.locate usualSite.config.controlPath).toOption) =
        some (some usualSite.control) := by
    decide +kernel
  obtain ⟨service, found, isPlace⟩ := Option.map_eq_some_iff.mp located
  have opened := opened_eq_some found
  have controlPlace : service.disk.locate usualSite.config.controlPath = .ok usualSite.control := by
    cases answer : service.disk.locate usualSite.config.controlPath with
    | error fault =>
        rw [answer] at isPlace
        cases isPlace
    | ok location =>
        rw [answer] at isPlace
        rw [Option.some.inj isPlace]
  have apart : usualSite.Apart := by
    constructor
    · rfl
    · decide
    · decide
  have ledgerPlace : Ledger.locate blankDisk usualSite.config.ledgerPath =
      some usualSite.ledger := by
    decide +kernel
  refine ⟨service, opened, restarts_do_not_show blank_disk_well_formed rfl opened apart controlPlace
    ledgerPlace ?_⟩
  intro content holds
  cases holds

/-- A node whose control store lies where the log of its ledger would. -/
def crossedConfig : NodeConfig :=
  ⟨"data", ⟨"votes.sqlite-wal", "censuses"⟩, LedgerConfig.defaults⟩

def identifiers (run : Option (List ServiceAnswer × Service)) : Option (List (Option CensusId)) :=
  run.map fun ran => ran.1.map fun answer => match answer with
    | .identifier (.ok id) => some id
    | _ => none

def allocations : List ServiceStep :=
  [.operation .newCensus, .restart, .operation .newCensus]

/-- A control store in the place of the log is taken away with it, and an identifier is allocated
for a second time. -/
theorem crossed_node_shows_restart :
    ∃ service, (openNode blankDisk crossedConfig).1 = .done service ∧
      identifiers (service.run crossedConfig allocations) = some [some ⟨0⟩, some ⟨0⟩] ∧
      ¬service.HidesRestarts crossedConfig := by
  have computed : (opened? blankDisk crossedConfig).map (fun service =>
      (identifiers (service.run crossedConfig allocations),
        identifiers (service.run crossedConfig (withoutRestarts allocations)))) =
      some (some [some ⟨0⟩, some ⟨0⟩], some [some ⟨0⟩, some ⟨1⟩]) := by
    decide +kernel
  obtain ⟨service, found, both⟩ := Option.map_eq_some_iff.mp computed
  obtain ⟨restarted, quiet⟩ := Prod.mk.inj both
  refine ⟨service, opened_eq_some found, restarted, ?_⟩
  intro hides
  obtain ⟨answers, last, quietLast, ran, ranQuiet, -⟩ := hides allocations
  rw [ran] at restarted
  rw [ranQuiet] at quiet
  have same := restarted.symm.trans quiet
  revert same
  decide

end Service

end CensusNode
