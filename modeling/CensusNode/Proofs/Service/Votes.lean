import CensusNode.Proofs.Ledger.Intact
import CensusNode.Proofs.Service.Closing

/-!
The votes of a node. Whatever is done with censuses leaves the ledger file under its name and with its
contents, a vote that is stored adds a row, and a restart finds the file again. So at any time in the
life of a node the rows of its ledger are those of votes that were accepted, and a vote in which no
row agrees is stored and read back.
-/

namespace CensusNode

namespace Disk

/-- A later disk on which a file is as it was and no name has gone away. -/
structure Retains (file : FileId) (disk later : Disk) : Prop extends disk.Extends later where
  formed : later.WellFormed
  names : ∀ place other, disk.fileAt? place = some other → later.fileAt? place = some other
  content : later.content file = disk.content file

variable {disk later last : Disk} {file written : FileId} {location : Location}

theorem Retains.refl (file : FileId) (formed : disk.WellFormed) : Retains file disk disk :=
  ⟨.refl disk, formed, fun _ _ named => named, rfl⟩

theorem Retains.trans (first : Retains file disk later) (second : Retains file later last) :
    Retains file disk last where
  toExtends := first.toExtends.trans second.toExtends
  formed := second.formed
  names place other named := second.names place other (first.names place other named)
  content := second.content.trans first.content

theorem Retains.owned (formed : disk.WellFormed) (file : FileId) (owners : List FileId) :
    Retains file disk (disk.owned owners) :=
  ⟨⟨rfl, fun _ isDirectory => isDirectory⟩, formed.owned owners, fun _ _ named => named, rfl⟩

theorem Retains.set_content (formed : disk.WellFormed) (different : file ≠ written)
    (content : FileContent) : Retains file disk (disk.setContent written content) :=
  ⟨extends_set_content _ _ _, formed.set_content, fun _ _ named => named,
    content_set_content_of_ne different⟩

end Disk

namespace Registry

variable {name : String} {above : Location} {ledger : OpenLedger} {registry : Registry}
  {file : FileId}

theorem Housed.retains_resolve (housed : Housed name above ledger registry) (id : CensusId) :
    registry.disk.Retains ledger.file (registry.resolve id).2.disk := by
  have resolution := housed.resolution id
  have grown := resolution.grown housed.formed housed.known
  exact ⟨grown.adds.toExtends, grown.formed, grown.adds.names,
    resolution.content_of_table housed.table⟩

theorem Housed.retains_serve (housed : Housed name above ledger registry)
    (request : CensusRequest) :
    registry.disk.Retains ledger.file (registry.serve request).disk := by
  have kept := serve_keeps (motive := fun after => Housed name above ledger after ∧
    registry.disk.Retains ledger.file after.disk) request ⟨housed, .refl _ housed.formed⟩ ?_ ?_
  · exact kept.2
  · intro before ⟨housed, retains⟩
    exact ⟨housed.resolve _, retains.trans (housed.retains_resolve _)⟩
  · intro _ before census set ⟨housed, retains⟩ member _
    have different := ne_of_table housed.table (housed.loaded census member).holds
    exact ⟨housed.put_set member set, retains.trans (.set_content housed.formed different _)⟩

theorem Housed.retains_new_census (housed : Housed name above ledger registry) :
    registry.disk.Retains ledger.file registry.newCensus.2.disk := by
  have kept := new_census_keeps (motive := fun after => Housed name above ledger after ∧
    registry.disk.Retains ledger.file after.disk) ⟨housed, .refl _ housed.formed⟩ ?_ ?_
  · exact kept.2
  · intro before id ⟨housed, retains⟩
    exact ⟨housed.resolve id, retains.trans (housed.retains_resolve id)⟩
  · intro before next ⟨housed, retains⟩
    have different := ne_of_table housed.table housed.control_holds
    exact ⟨housed.write_counter next, retains.trans (.set_content housed.formed different _)⟩

/-- A registry that is opened makes directories and its control store, which is not the ledger. -/
theorem retains_open_at {disk after : Disk} {path root : String} (formed : disk.WellFormed)
    (known : disk.HeldFilesKnown) (table : (disk.content file).hasTable = true)
    (opened : openAt disk path root = (.ok registry, after)) : disk.Retains file after := by
  obtain ⟨location, store, _, seeded, available, -, isRegistry, isDisk⟩ :=
    open_at_eq_ok formed known opened
  have grows := disk.prepare_grows (Path.namedParent? path)
  have madeFormed := Disk.prepare_well_formed formed (Path.namedParent? path)
  have unheld : ∀ file, (disk.prepare (Path.namedParent? path)).2.fileAt? location = some file →
      (disk.prepare (Path.namedParent? path)).2.isHeld file = false := by
    intro file named
    rw [grows.file_at] at named
    rw [grows.is_held]
    exact available.unheld file named
  have adds : disk.Adds
      (started (disk.prepare (Path.namedParent? path)).2 location seeded root).disk :=
    grows.adds.trans
      (Disk.with_store_hold_adds madeFormed (grows.known known) available.free unheld)
  have shown := available.shown
  rw [← grows.file] at shown
  have tableLater := table
  rw [← grows.content] at tableLater
  rw [isDisk, isRegistry]
  refine ⟨adds.toExtends, (Disk.with_store_formed madeFormed available.free seeded).owned _,
    adds.names, ?_⟩
  exact (Disk.with_store_content (with_store_file_ne shown tableLater seeded)).trans
    (grows.content file)

end Registry

namespace LedgerState

variable {path target : String} {place : Location} {file : FileId} {accepted : List Submission}
  {disk later : Disk} {ledger : OpenLedger}

theorem OnFile.retained {held : Option OpenLedger}
    (onFile : OnFile target place file accepted ⟨disk, held⟩)
    (retains : disk.Retains file later) : OnFile target place file accepted ⟨later, held⟩ where
  formed := retains.formed
  placed := (Ledger.ledger_place_extends retains.toExtends target).trans onFile.placed
  named := retains.names _ _ onFile.named
  holds := by
    rw [Disk.rowsAt, retains.content]
    exact onFile.holds
  sound := onFile.sound
  stands opened isOpen := by
    obtain ⟨isFile, stands⟩ := onFile.stands opened isOpen
    exact ⟨isFile, retains.names _ _ stands.named, stands.apart,
      fun log isLog => retains.names _ _ (stands.log log isLog), stands.leftovers⟩

theorem Fleeting.retained (fleeting : Fleeting accepted ⟨disk, some ledger⟩ ledger)
    (retains : disk.Retains ledger.file later) (inRange : ledger.file < later.contents.length) :
    Fleeting accepted ⟨later, some ledger⟩ ledger where
  isOpen := rfl
  inRange := inRange
  log := fleeting.log
  rows := by
    rw [OpenLedger.rows, Disk.rowsAt, retains.content]
    exact fleeting.rows
  sound := fleeting.sound

theorem Keeping.retained (keeping : Keeping path accepted disk ledger)
    (retains : disk.Retains ledger.file later)
    (table : (later.content ledger.file).hasTable = true) : Keeping path accepted later ledger := by
  cases keeping with
  | onFile target options place file isFile state =>
      rw [(state.stands ledger rfl).1] at retains
      exact .onFile target options place file isFile (state.retained retains)
  | fleeting readOnly isFleeting state =>
      exact .fleeting readOnly isFleeting (state.retained retains (Disk.lt_of_table table))

theorem Keeping.submitted (keeping : Keeping path accepted disk ledger) (submission : Submission) :
    ∃ more, Keeping path (accepted ++ more) (ledger.submit disk submission).2 ledger := by
  have after : (step path ⟨disk, some ledger⟩ (.submitted submission)).2 =
      ⟨(ledger.submit disk submission).2, some ledger⟩ := by
    rw [step]
    cases outcome : ledger.submit disk submission with
    | mk answer later => cases answer <;> simp only [outcome]
  cases keeping with
  | onFile target options place file isFile state =>
      have stepped : OnFile target place file _ (step path _ (.submitted submission)).2 :=
        state.submitted submission
      rw [after] at stepped
      exact ⟨_, .onFile target options place file isFile stepped⟩
  | fleeting readOnly isFleeting state =>
      have stepped : Fleeting _ (step path _ (.submitted submission)).2 ledger :=
        state.submitted submission
      rw [after] at stepped
      exact ⟨_, .fleeting readOnly isFleeting stepped⟩

end LedgerState

namespace Service

open LedgerState (Keeping)

variable {config : NodeConfig} {service : Service}

structure TakesVotes (config : NodeConfig) (service : Service) : Prop where
  inUse : InUse config service
  keeping : ∃ accepted, Keeping config.ledgerPath accepted service.disk service.ledger

theorem TakesVotes.perform (takes : TakesVotes config service) (operation : ServiceOperation) :
    TakesVotes config (service.perform operation).2 where
  inUse := takes.inUse.perform operation
  keeping := by
    obtain ⟨accepted, keeping⟩ := takes.keeping
    obtain ⟨name, above, rooms⟩ := takes.inUse.housed
    apply perform_keeps (motive := fun later =>
      ∃ accepted, Keeping config.ledgerPath accepted later.disk later.ledger)
      ⟨accepted, keeping⟩ operation
    · intro request _
      exact ⟨accepted, keeping.retained (rooms.retains_serve request) (rooms.serve request).1.table⟩
    · exact ⟨accepted, keeping.retained rooms.retains_new_census rooms.new_census.1.table⟩
    · intro root package now
      obtain ⟨more, stored⟩ := keeping.submitted ⟨root, package, now⟩
      rw [OpenLedger.store_vote_eq]
      exact ⟨accepted ++ more, stored⟩

/-- A restart finds the ledger file again, with the rows that it had. A ledger that lies in no file
starts anew. -/
theorem TakesVotes.restart (takes : TakesVotes config service) {again : Service}
    (restarted : service.restart config = some again) : TakesVotes config again where
  inUse := takes.inUse.restart restarted
  keeping := by
    obtain ⟨accepted, keeping⟩ := takes.keeping
    obtain ⟨name, above, rooms⟩ := takes.inUse.housed
    obtain ⟨-, registry, disk, after, starting, isOpen, isAgain⟩ :=
      open_node_spec (restart_eq_some restarted)
    have isDisk : again.disk = after := by rw [isAgain]; rfl
    have left := takes.inUse.left_by
    have known := left.known rooms.known
    have table : (service.close.content service.ledger.file).hasTable = true := by
      rw [left.contents]
      exact rooms.table
    have retains := Registry.retains_open_at left.formed known table starting
    rw [isDisk]
    cases keeping with
    | onFile target options place file isFile state =>
        rw [(state.stands service.ledger rfl).1] at retains
        obtain ⟨owners, isClosed, -⟩ := service.registry.close_eq
        have given := state.retained (.owned rooms.formed file owners)
        rw [← isClosed] at given
        have closed : LedgerState.OnFile target place file accepted ⟨service.close, none⟩ :=
          given.closed
        have isOpened : ∀ ledger, some again.ledger = some ledger →
            (Ledger.openAt disk config.ledgerPath config.ledger).1 = .done ledger := by
          intro ledger isLedger
          rw [isOpen, ← Option.some.inj isLedger]
        have opened := (closed.retained retains).opened isFile config.ledger _ isOpened
        rw [isOpen] at opened
        exact ⟨accepted, .onFile target options place file isFile opened⟩
    | fleeting readOnly isFleeting state =>
        obtain ⟨made, -, -, isLedger, isAfter⟩ :=
          Ledger.open_at_fleeting retains.formed isFleeting isOpen
        refine ⟨[], LedgerState.keeping_of_open retains.formed isOpen VoteRows.sound_nil ?_⟩
        rw [OpenLedger.rows, Disk.rowsAt, isLedger, isAfter, Disk.content_create_unnamed_self]
        rfl

/-- A service at some time after it was opened on a well-formed disk. The ledger that it found there,
if any, had the rows of votes accepted earlier. -/
def Reached (service : Service) : Prop :=
  ∃ before config opened steps answers earlier, before.WellFormed ∧ before.HeldFilesKnown ∧
    (openNode before config).1 = .done opened ∧ VoteRows.Sound (VoteRows.rowsOf earlier) ∧
    opened.rows = VoteRows.rowsOf earlier ∧ opened.run config steps = some (answers, service)

/-- A service is reached by a run from a ledger without rows. -/
theorem reached_of_run {before : Disk} {opened : Service} {steps : List ServiceStep}
    {answers : List ServiceAnswer} (formed : before.WellFormed) (known : before.HeldFilesKnown)
    (opening : (openNode before config).1 = .done opened) (empty : opened.rows = [])
    (ran : opened.run config steps = some (answers, service)) : service.Reached :=
  ⟨before, config, opened, steps, answers, [], formed, known, opening, VoteRows.sound_nil, empty, ran⟩

theorem Reached.takes_votes (reached : service.Reached) : ∃ config, TakesVotes config service := by
  obtain ⟨before, config, opened, steps, answers, earlier, formed, known, opening, sound, rows, ran⟩ :=
    reached
  obtain ⟨valid, registry, disk, after, starting, isOpen, isOpened⟩ := open_node_spec opening
  obtain ⟨started, isDisk⟩ := Registry.started_on_of_open_at valid formed known starting
  have isAfter : opened.disk = after := by rw [isOpened]; rfl
  rw [isDisk] at isOpen
  rw [Service.rows, isAfter] at rows
  have keeping := LedgerState.keeping_of_open started.formed isOpen sound rows
  have takes : TakesVotes config opened := by
    refine ⟨(opened_on formed known opening).in_use, earlier, ?_⟩
    rw [isAfter]
    exact keeping
  refine ⟨config, run_keeps takes ?_ ?_ ran⟩
  · exact fun before operation takes _ => takes.perform operation
  · exact fun before again takes restarted => takes.restart restarted

theorem Reached.rows (reached : service.Reached) :
    ∃ accepted, VoteRows.Sound (VoteRows.rowsOf accepted) ∧
      service.rows = VoteRows.rowsOf accepted := by
  obtain ⟨config, takes⟩ := reached.takes_votes
  obtain ⟨accepted, keeping⟩ := takes.keeping
  exact ⟨accepted, keeping.rows⟩

theorem lift_ledger_eq_ok {α : Type} {answer : Except LedgerError α} {value : α} :
    liftLedger answer = .ok value ↔ answer = .ok value := by
  cases answer <;> simp [liftLedger]

theorem Reached.index_of_vote (reached : service.Reached) {index : UInt64}
    {stored : StoredVotePackage} (found : service.vote index = .ok stored) :
    stored.package.index = index ∧ index.toNat ≤ maxRowInteger := by
  obtain ⟨accepted, sound, rows⟩ := reached.rows
  have isFound : VoteRows.get (VoteRows.rowsOf accepted) index = .ok stored := by
    rw [vote, rows] at found
    exact lift_ledger_eq_ok.mp found
  obtain ⟨row, member, sameIndex⟩ := VoteRows.index_of_get isFound
  have bounds := sound.index_bounds member
  obtain ⟨entry, -, isIndex, -, -, samePackage, -⟩ := (VoteRows.get_eq_ok_iff sound).mp isFound
  refine ⟨?_, by omega⟩
  rw [samePackage, isIndex]

/-- A vote in which no row agrees is stored, unless the ledger only reads, and is read back. -/
theorem Reached.store_vote (reached : service.Reached) (takesRows : service.ledger.writable = true)
    (fit : VoteRows.FitDatabase service.rows) (root : CensusRoot) {package : VotePackage}
    {now : Instant} (storable : package.index.toNat ≤ maxRowInteger)
    (fresh : ∀ row ∈ service.rows, ∀ field, ¬row.Agrees package field)
    (inTime : now.micros ≤ Instant.latestMicros) :
    ∃ later stored, service.storeVote root package now = (.ok (), later) ∧
      later.rows = service.rows ++ [VoteRows.rowOf root package now (service.rows.length + 1)] ∧
      later.vote package.index = .ok stored ∧
      Submission.IsKeptAs ⟨root, package, now⟩ stored := by
  obtain ⟨accepted, sound, rows⟩ := reached.rows
  obtain ⟨config, takes⟩ := reached.takes_votes
  have isStored : VoteRows.store service.rows root package now =
      .ok (service.rows ++ [VoteRows.rowOf root package now (service.rows.length + 1)]) := by
    rw [rows] at fresh ⊢
    rcases sound.store_cases root package now with
      ⟨tooLarge, -⟩ | ⟨-, field, ⟨row, member, agrees⟩, -⟩ | ⟨-, -, stored⟩
    · exact absurd storable (Nat.not_le.mpr tooLarge)
    · exact absurd agrees (fresh row member field)
    · exact stored
  have storing : service.storeVote root package now = (.ok (), service.putRows
      (service.rows ++ [VoteRows.rowOf root package now (service.rows.length + 1)])) := by
    rw [storeVote, takesRows, Bool.not_true, Bool.and_false, isStored]
    rfl
  have put := takes.inUse.housed.rows_put_rows
    (service.rows ++ [VoteRows.rowOf root package now (service.rows.length + 1)])
  have room := sound.length_lt (by rwa [← rows])
  rw [rows] at isStored
  obtain ⟨isGrown, grown⟩ := @VoteRows.store_rows_of _ sound ⟨root, package, now⟩ _ isStored
  rcases grown.get_cases (List.mem_append_right accepted List.mem_cons_self) inTime with
    ⟨stored, found, kept⟩ | ⟨beyond, -⟩
  · refine ⟨_, stored, storing, put, ?_, kept⟩
    rw [Service.vote, put, rows, isGrown, found]
    rfl
  · rw [List.length_append, List.length_singleton] at beyond
    rw [VoteRows.length_rows_of] at room
    omega

end Service

end CensusNode
