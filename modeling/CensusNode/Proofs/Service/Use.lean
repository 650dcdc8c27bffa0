import CensusNode.Proofs.Ledger.AppendOnly
import CensusNode.Proofs.Registry.Outcomes
import CensusNode.Proofs.Service.Tenants

/-!
A service in use: opened on any well-formed disk, asked whatever there is to ask, and closed and
opened again in between. What a service needs to be in use is kept by each operation and by a
restart, whatever its configuration. A restart gives up every owner, takes away the companions of the
ledger and puts the control store and the ledger in their places; the stores of all censuses are left
as they were.
-/

namespace CensusNode

variable {disk after : Disk} {place : Location}

theorem Registry.of_shown {content : Option FileContent} {store : Store}
    (shown : shownStore content = .ok store) : store = Store.empty ∨ content = some (.store store) := by
  unfold shownStore at shown
  split at shown
  · exact Or.inl (Except.ok.inj shown).symm
  · exact Or.inr (by rw [Except.ok.inj shown])
  · cases shown
  · exact Or.inl (Except.ok.inj shown).symm
  · cases shown

theorem Registry.store_place_not_companion (disk : Disk) (root : String) (id : CensusId)
    (location : Location) : storePlace disk root id ∉ Ledger.companions location := by
  intro member
  have ending := Ledger.last_char_of_companion member
  revert ending
  decide

/-- A place where an opening has left what lay there, unless it is now the place of a ledger; then no
store lay there. -/
def Ledger.Leaves (disk after : Disk) (place : Location) : Prop :=
  after.fileAt? place = disk.fileAt? place ∧ after.file? place = disk.file? place ∨
    (∃ content, after.file? place = some content ∧ content.hasTable = true) ∧
      ∀ store, disk.file? place ≠ some (.store store)

theorem Ledger.open_at_leaves {path : String} {config : LedgerConfig} {ledger : OpenLedger}
    (formed : disk.WellFormed) (opened : openAt disk path config = (.done ledger, after))
    (outside : ∀ location, place ∉ companions location) : Leaves disk after place := by
  rcases open_at_done formed opened with
    ⟨_, made, -, grows, madeFormed, -, isAfter⟩ | ⟨target, options, -, visited, stands⟩
  · left
    have sameName : after.fileAt? place = made.fileAt? place := by
      rw [isAfter]
      rfl
    rw [← grows.file_at, ← grows.file, sameName]
    refine ⟨rfl, ?_⟩
    cases named : made.fileAt? place with
    | none => rw [Disk.file_eq_none_iff.mpr named, Disk.file_eq_none_iff.mpr (sameName.trans named)]
    | some file =>
        rw [Disk.file_of_named named, Disk.file_of_named (sameName.trans named), isAfter,
          Disk.content_create_unnamed_of_lt (madeFormed.in_range _ _ named)]
  · by_cases isLedger : place = ledgerPlace disk target
    · right
      rw [isLedger]
      refine ⟨⟨_, Disk.file_of_named stands.named, stands.table⟩, ?_⟩
      intro store holds
      cases named : disk.fileAt? (ledgerPlace disk target) with
      | none =>
          rw [Disk.file_eq_none_iff.mpr named] at holds
          cases holds
      | some file =>
          rw [Disk.file_of_named named, visited.same file named] at holds
          exact stands.ledger_only store (Option.some.inj holds)
    · left
      have elsewhere : place ∉ filesOf (ledgerPlace disk target) := by
        rw [filesOf, List.mem_cons, not_or]
        exact ⟨isLedger, outside _⟩
      exact visited.untouched elsewhere

namespace Registry

theorem load_root (registry : Registry) (id : CensusId) :
    (registry.load id).2.censusRoot = registry.censusRoot := by
  unfold load
  cases opening : openStoreIn registry.disk (some (censusDirectory registry.censusRoot id))
      (censusPath registry.censusRoot id) with
  | mk answer disk =>
      cases answer with
      | error error => simp only [opening]
      | ok file =>
          cases loads : IdentitySet.load (disk.storeAt file).census with
          | error fault => simp only [opening, loads]
          | ok set => simp only [opening, loads]

theorem resolve_root (registry : Registry) (id : CensusId) :
    (registry.resolve id).2.censusRoot = registry.censusRoot := by
  have same := registry.load_root id
  unfold resolve
  cases registry.find? id with
  | some census => rfl
  | none =>
      revert same
      cases registry.load id with
      | mk answer after => cases answer <;> exact fun same => same

variable {config : NodeConfig} {before : Disk} {registry : Registry}

/-- A registry that was just opened with a configuration on a disk. It owns its control store besides
what was owned already, and what lies in the places of the stores of censuses is as it was. -/
structure StartedOn (config : NodeConfig) (before : Disk) (registry : Registry) : Prop where
  formed : registry.disk.WellFormed
  known : registry.disk.HeldFilesKnown
  root : registry.censusRoot = config.censusRootPath
  loaded : registry.loaded = []
  extended : before.Extends registry.disk
  owners : ∀ file, registry.disk.isHeld file = true →
    file = registry.control ∨ before.isHeld file = true
  stores : ∀ id, registry.disk.fileAt? (storePlace before config.censusRootPath id) =
      before.fileAt? (storePlace before config.censusRootPath id) ∧
    registry.disk.file? (storePlace before config.censusRootPath id) =
      before.file? (storePlace before config.censusRootPath id)

theorem started_on_of_open_at (valid : config.validate = .ok ()) (formed : before.WellFormed)
    (known : before.HeldFilesKnown)
    (opened : openAt before config.controlPath config.censusRootPath = (.ok registry, disk)) :
    StartedOn config before registry ∧ disk = registry.disk := by
  obtain ⟨next, counts⟩ := Counts.of_open_at formed known opened
  obtain ⟨location, store, _, seeded, available, -, isRegistry, isDisk⟩ :=
    open_at_eq_ok formed known opened
  have grows := before.prepare_grows (Path.namedParent? config.controlPath)
  have madeFormed := Disk.prepare_well_formed formed (Path.namedParent? config.controlPath)
  have keeps := Disk.with_store_keeps madeFormed available.free seeded
  obtain ⟨above, rooted, isPlace⟩ := rooted_of_located valid available.located
  refine ⟨⟨counts.formed, counts.known, ?_, ?_, ?_, ?_, ?_⟩, isDisk⟩
  · rw [isRegistry]
    rfl
  · rw [isRegistry]
    rfl
  · rw [isRegistry]
    exact grows.toExtends.trans (keeps.toWithin.owned _).extended
  · intro file held
    rw [isRegistry] at held ⊢
    rcases Disk.is_held_hold_iff.mp held with isControl | old
    · exact Or.inl isControl
    · rw [Disk.isHeld, Disk.with_store_held, ← Disk.isHeld, grows.is_held] at old
      exact Or.inr old
  · intro id
    -- The control store lies higher up than any store of a census.
    have outside : storePlace before config.censusRootPath id ∉ [location] := by
      rw [List.mem_singleton, ← store_place_extends grows.toExtends, storePlace,
        rooted.censuses_place, isPlace]
      intro same
      have lengths := congrArg List.length same
      simp only [List.length_cons] at lengths
      omega
    rw [isRegistry, started, Disk.file_at_hold, Disk.file_hold, keeps.names _ outside,
      keeps.files _ outside, grows.file_at, grows.file]
    exact ⟨rfl, rfl⟩

end Registry

namespace Service

variable {config : NodeConfig} {before : Disk} {service : Service}

structure OpenedOn (config : NodeConfig) (before : Disk) (service : Service) : Prop where
  housed : service.IsHoused
  root : service.registry.censusRoot = config.censusRootPath
  loaded : service.registry.loaded = []
  leftovers : ∃ place, service.ledger.leftovers ⊆ Ledger.companions place
  extended : before.Extends service.registry.disk
  owners : ∀ file, service.registry.disk.isHeld file = true →
    file = service.registry.control ∨ before.isHeld file = true
  stores : ∀ id, Ledger.Leaves before service.registry.disk
    (Registry.storePlace before config.censusRootPath id)

theorem opened_on (formed : before.WellFormed) (known : before.HeldFilesKnown)
    (opened : (openNode before config).1 = .done service) : OpenedOn config before service := by
  have housed := housed_of_open formed known opened
  obtain ⟨valid, registry, disk, after, starting, isOpen, isService⟩ := open_node_spec opened
  have isRegistry : service.registry = { registry with disk := after } :=
    congrArg Service.registry isService
  obtain ⟨started, isDisk⟩ := Registry.started_on_of_open_at valid formed known starting
  rw [isDisk] at isOpen
  have beside := Ledger.beside_of_open started.formed started.known isOpen
  refine ⟨housed, ?_, ?_, ?_, ?_, ?_, ?_⟩
  · rw [isRegistry]
    exact started.root
  · rw [isRegistry]
    exact started.loaded
  · rcases Ledger.open_at_done started.formed isOpen with
      ⟨_, _, -, -, -, isLedger, -⟩ | ⟨target, _, -, -, stands⟩
    · rw [isLedger]
      exact ⟨[], List.nil_subset _⟩
    · exact ⟨_, stands.leftovers⟩
  · rw [isRegistry]
    exact started.extended.trans beside.extended
  · intro file held
    rw [isRegistry] at held ⊢
    apply started.owners
    rw [Disk.isHeld, ← beside.held, ← Disk.isHeld]
    exact held
  · intro id
    have left := Ledger.open_at_leaves started.formed isOpen
      (Registry.store_place_not_companion before config.censusRootPath id)
    obtain ⟨sameName, sameFile⟩ := started.stores id
    rw [Ledger.Leaves, sameName, sameFile] at left
    rw [isRegistry]
    exact left

/-- What a service needs while it is in use with a configuration: it is apart from its ledger, which
takes away its companions only, and every census that it answers from is the one that its records
would be loaded as. -/
structure InUse (config : NodeConfig) (service : Service) : Prop where
  housed : service.IsHoused
  root : service.registry.censusRoot = config.censusRootPath
  leftovers : ∃ place, service.ledger.leftovers ⊆ Ledger.companions place
  restorable : ∀ id set, service.registry.setAt id = .ok set → set.Persisted

/-- The disk that a service leaves: its files have no owner, and names of companions are gone. -/
structure LeftBy (service : Service) (disk : Disk) : Prop where
  formed : disk.WellFormed
  extended : service.registry.disk.Extends disk
  owners : ∀ file, disk.isHeld file = true → service.registry.disk.isHeld file = true ∧
    file ∉ service.registry.loaded.map LoadedCensus.file
  names : ∀ place, (∀ location, place ∉ Ledger.companions location) →
    disk.fileAt? place = service.registry.disk.fileAt? place
  longer : service.registry.disk.contents.length ≤ disk.contents.length
  contents : ∀ file, disk.content file = service.registry.disk.content file

theorem InUse.left_by (inUse : InUse config service) : LeftBy service service.close := by
  obtain ⟨name, above, housed⟩ := inUse.housed
  obtain ⟨place, within⟩ := inUse.leftovers
  obtain ⟨files, isClosed, owned⟩ := service.registry.close_eq
  obtain ⟨handled, same⟩ := Ledger.unlink_all_handled service.ledger.file
    (housed.formed.owned files) within
  rw [← isClosed] at handled same
  have extended : service.registry.disk.Extends service.registry.close := by
    rw [isClosed]
    exact ⟨rfl, fun _ isDirectory => isDirectory⟩
  constructor
  · exact handled.formed
  · exact extended.trans handled.extended
  · intro file held
    have member : file ∈ files := by
      rw [close, OpenLedger.close, handled.is_held, isClosed, Disk.isHeld,
        List.contains_iff_mem] at held
      exact held
    obtain ⟨before, outside⟩ := owned file member
    exact ⟨before, fun loaded => outside (List.mem_cons_of_mem _ loaded)⟩
  · intro place outside
    rw [close, OpenLedger.close, handled.names place (outside _), isClosed]
    rfl
  · have longer := handled.longer
    rw [isClosed] at longer
    rw [close, OpenLedger.close, isClosed]
    exact longer
  · intro file
    rw [close, OpenLedger.close, same, isClosed]
    rfl

theorem LeftBy.known {left : Disk} (leftBy : LeftBy service left)
    (known : service.registry.disk.HeldFilesKnown) : left.HeldFilesKnown := by
  intro file held
  exact Nat.lt_of_lt_of_le (known file (leftBy.owners file held).1) leftBy.longer

theorem LeftBy.file {left : Disk} (leftBy : LeftBy service left) {place : Location}
    (outside : ∀ location, place ∉ Ledger.companions location) :
    left.file? place = service.registry.disk.file? place := by
  have sameName := leftBy.names place outside
  cases named : service.registry.disk.fileAt? place with
  | none => rw [Disk.file_eq_none_iff.mpr named, Disk.file_eq_none_iff.mpr (sameName.trans named)]
  | some file =>
      rw [Disk.file_of_named named, Disk.file_of_named (sameName.trans named), leftBy.contents]

theorem restart_eq_some {again : Service} (restarted : service.restart config = some again) :
    (openNode service.close config).1 = .done again := by
  unfold restart at restarted
  split at restarted
  · rename_i opened _ isOpen
    rw [isOpen, Option.some.inj restarted]
  · cases restarted

theorem InUse.opened_again {again : Service} (inUse : InUse config service)
    (restarted : service.restart config = some again) : OpenedOn config service.close again := by
  obtain ⟨name, above, housed⟩ := inUse.housed
  have leftBy := inUse.left_by
  exact opened_on leftBy.formed (leftBy.known housed.known) (restart_eq_some restarted)

theorem OpenedOn.in_use (openedOn : OpenedOn config before service) : InUse config service where
  housed := openedOn.housed
  root := openedOn.root
  leftovers := openedOn.leftovers
  restorable id set isSet := by
    obtain ⟨name, above, housed⟩ := openedOn.housed
    have absent : service.registry.find? id = none := by
      rw [Registry.find?, openedOn.loaded]
      rfl
    rw [housed.rooted.set_at_of_absent housed.formed housed.known absent] at isSet
    obtain ⟨store, -, loads⟩ := Registry.access_eq_ok isSet
    rw [IdentitySet.Persisted, IdentitySet.load_tables loads]
    exact loads

theorem InUse.leaves (inUse : InUse config service) {again : Service}
    (restarted : service.restart config = some again) (id : CensusId) :
    Ledger.Leaves service.registry.disk again.registry.disk
      (Registry.storePlace service.registry.disk config.censusRootPath id) := by
  have leftBy := inUse.left_by
  have outside := Registry.store_place_not_companion service.registry.disk config.censusRootPath id
  have left := (inUse.opened_again restarted).stores id
  rw [Registry.store_place_extends leftBy.extended] at left
  rw [Ledger.Leaves, leftBy.names _ outside, leftBy.file outside] at left
  exact left

theorem InUse.again_place (inUse : InUse config service) {again : Service}
    (restarted : service.restart config = some again) (id : CensusId) :
    Registry.storePlace again.registry.disk again.registry.censusRoot id =
      Registry.storePlace service.registry.disk config.censusRootPath id := by
  have openedOn := inUse.opened_again restarted
  rw [openedOn.root,
    Registry.store_place_extends (inUse.left_by.extended.trans openedOn.extended)]

/-- Records that show once a service is opened lay on the disk before. -/
theorem OpenedOn.shown (openedOn : OpenedOn config before service) {id : CensusId}
    {tables : CensusTables} (shows : service.registry.persisted id = .ok tables) :
    (Registry.shownStore (before.file? (Registry.storePlace before config.censusRootPath id))).map
      Store.census = .ok tables := by
  rw [Registry.persisted, openedOn.root, Registry.store_place_extends openedOn.extended] at shows
  rcases openedOn.stores id with ⟨-, same⟩ | ⟨⟨content, isLedger, table⟩, -⟩
  · rw [← same]
    exact shows
  · rw [isLedger, Registry.shown_of_table table] at shows
    cases shows

theorem InUse.persisted_restart (inUse : InUse config service) {again : Service}
    (restarted : service.restart config = some again) {id : CensusId} {tables : CensusTables}
    (shows : again.registry.persisted id = .ok tables) :
    service.registry.persisted id = .ok tables := by
  have leftBy := inUse.left_by
  have shown := (inUse.opened_again restarted).shown shows
  rw [Registry.store_place_extends leftBy.extended,
    leftBy.file (Registry.store_place_not_companion _ _ _)] at shown
  rw [Registry.persisted, inUse.root]
  exact shown

/-- The path of a census leads to the place of its store, whose directory is there. -/
structure Reaches (root : String) (id : CensusId) (disk : Disk) : Prop where
  prepared : disk.Prepared (some (Registry.censusDirectory root id))
  located : disk.locate (Registry.censusPath root id) = .ok (Registry.storePlace disk root id)

theorem Reaches.extends {root : String} {id : CensusId} {disk later : Disk}
    (reaches : Reaches root id disk) (extended : disk.Extends later) : Reaches root id later where
  prepared := reaches.prepared.extends extended
  located := by
    rw [Registry.store_place_extends extended]
    exact Disk.locate_extends extended reaches.located

/-- A census that answers and has records lies in a store that nobody owns once the service is
closed. -/
theorem InUse.store_of_set_at (inUse : InUse config service) {id : CensusId} {set : IdentitySet}
    (isSet : service.registry.setAt id = .ok set) (recorded : set.tables ≠ CensusTables.empty) :
    ∃ file store, service.registry.disk.fileAt?
          (Registry.storePlace service.registry.disk config.censusRootPath id) = some file ∧
      service.registry.disk.content file = .store store ∧ store.census = set.tables ∧
      service.close.isHeld file = false := by
  obtain ⟨name, above, housed⟩ := inUse.housed
  have leftBy := inUse.left_by
  have shows := housed.persisted_of_set_at isSet
  rw [Registry.persisted, inUse.root] at shows
  cases shown : Registry.shownStore (service.registry.disk.file?
      (Registry.storePlace service.registry.disk config.censusRootPath id)) with
  | error fault =>
      rw [shown] at shows
      cases shows
  | ok store =>
      rw [shown] at shows
      have isCensus : store.census = set.tables := Except.ok.inj shows
      rcases Registry.of_shown shown with isEmpty | holds
      · rw [isEmpty] at isCensus
        exact absurd isCensus.symm recorded
      · obtain ⟨file, named, content⟩ := Option.map_eq_some_iff.mp holds
        refine ⟨file, store, named, content, isCensus, ?_⟩
        rw [← Bool.not_eq_true]
        intro stillHeld
        obtain ⟨held, notLoaded⟩ := leftBy.owners file stillHeld
        cases found : service.registry.find? id with
        | some census =>
            -- The registry has it open itself, so it has given it up.
            obtain ⟨member, isId⟩ := Registry.find_eq_some found
            have lodged := (housed.loaded census member).named
            rw [isId, inUse.root, named] at lodged
            rw [Option.some.inj lodged] at notLoaded
            exact notLoaded (List.mem_map_of_mem member)
        | none =>
            rw [housed.rooted.set_at_of_absent housed.formed housed.known found] at isSet
            obtain ⟨other, entered, -⟩ := Registry.access_eq_ok isSet
            rw [inUse.root, Registry.entry, named] at entered
            simp only [held, if_true] at entered
            cases entered

theorem InUse.set_at_restart (inUse : InUse config service) {again : Service}
    (restarted : service.restart config = some again) {id : CensusId} {set : IdentitySet}
    (isSet : service.registry.setAt id = .ok set) (recorded : set.tables ≠ CensusTables.empty)
    (reaches : Reaches config.censusRootPath id service.registry.disk) :
    again.registry.setAt id = .ok set := by
  obtain ⟨file, store, named, content, isCensus, released⟩ := inUse.store_of_set_at isSet recorded
  have openedOn := inUse.opened_again restarted
  obtain ⟨name, above, housed⟩ := openedOn.housed
  have reachesAgain := reaches.extends (inUse.left_by.extended.trans openedOn.extended)
  have place := inUse.again_place restarted id
  have left := inUse.leaves restarted id
  rw [Ledger.Leaves, named, Disk.file_of_named named, content] at left
  have same := left.resolve_right fun other => other.2 store rfl
  obtain ⟨sameName, sameFile⟩ := same
  rw [Disk.file_of_named sameName] at sameFile
  have holds := Option.some.inj sameFile
  have unheld : again.registry.disk.isHeld file = false := by
    rw [← Bool.not_eq_true]
    intro held
    rcases openedOn.owners file held with isControl | before
    · apply housed.control_apart id
      rw [place, sameName, isControl]
    · rw [released] at before
      cases before
  rw [← place, openedOn.root] at sameName
  have isOpen := Registry.open_store_in_of_named housed.formed reachesAgain.prepared
    reachesAgain.located sameName unheld holds
  have absent : again.registry.find? id = none := by
    rw [Registry.find?, openedOn.loaded]
    rfl
  have loads : IdentitySet.load store.census = .ok set := by
    rw [isCensus]
    exact inUse.restorable id set isSet
  have contents : (again.registry.disk.hold file).storeAt file = store := by
    rw [Disk.store_at_hold, Disk.storeAt, holds]
    rfl
  rw [← openedOn.root] at isOpen
  exact Registry.set_at_of_opened absent (congrArg Prod.fst isOpen)
    ((congrArg (fun opened => opened.2.storeAt file) isOpen).trans contents) loads

/-- Every operation is a request to a census, an allocation, a write of rows, or changes nothing. -/
theorem perform_keeps {motive : Service → Prop} (start : motive service)
    (operation : ServiceOperation)
    (serves : ∀ request, operation.request? = some request →
      motive { service with registry := service.registry.serve request })
    (allocates : motive { service with registry := service.registry.newCensus.2 })
    (stores : ∀ root package now, motive (service.storeVote root package now).2) :
    motive (service.perform operation).2 := by
  cases asked : operation.request? with
  | some request =>
      have after : (service.ask (.service operation)).2 = _ := ask_of_request asked
      change (service.perform operation).2 = _ at after
      rw [after]
      exact serves request asked
  | none =>
      cases operation with
      | newCensus =>
          change motive (service.lift _).2
          rw [lift_snd]
          exact allocates
      | storeVote root package now => exact stores root package now
      | votesByRoot root => exact start
      | votePage root cursor limit => exact start
      | vote index => exact start
      | closeCensus id => cases asked
      | censusRoot id => cases asked
      | censusInfo id => cases asked
      | addKeys id keys => cases asked
      | ingest id keys now => cases asked
      | setStatus id status => cases asked

/-- What all steps of a run keep holds at its end. -/
theorem run_keeps {motive : Service → Prop} {steps : List ServiceStep}
    {answers : List ServiceAnswer} {last : Service} (start : motive service)
    (performs : ∀ before operation, motive before → .operation operation ∈ steps →
      motive (before.perform operation).2)
    (restarts : ∀ before again, motive before → before.restart config = some again → motive again)
    (ran : service.run config steps = some (answers, last)) : motive last := by
  induction steps generalizing service answers with
  | nil =>
      cases ran
      exact start
  | cons step rest induction =>
      have later {before : Service} {others : List ServiceAnswer} (next : motive before)
          (went : before.run config rest = some (others, last)) : motive last :=
        induction next (fun before operation holds member =>
          performs before operation holds (List.mem_cons_of_mem _ member)) went
      cases step with
      | operation operation =>
          rw [run, Option.map_eq_some_iff] at ran
          obtain ⟨⟨others, same⟩, went, isLast⟩ := ran
          obtain ⟨-, rfl⟩ := Prod.mk.inj isLast
          exact later (performs service operation start List.mem_cons_self) went
      | restart =>
          rw [run, Option.bind_eq_some_iff] at ran
          obtain ⟨again, restarted, went⟩ := ran
          exact later (restarts service again start restarted) went

theorem InUse.of_registry (inUse : InUse config service) {registry : Registry}
    (housed : IsHoused { service with registry })
    (root : registry.censusRoot = service.registry.censusRoot)
    (restorable : ∀ id set, registry.setAt id = .ok set → set.Persisted) :
    InUse config { service with registry } :=
  ⟨housed, root.trans inUse.root, inUse.leftovers, restorable⟩

theorem InUse.serve (inUse : InUse config service) (request : CensusRequest) :
    InUse config { service with registry := service.registry.serve request } := by
  obtain ⟨housed, -, unchanged⟩ := inUse.housed.serve request
  apply inUse.of_registry housed
  · apply Registry.serve_keeps (motive := fun after =>
      after.censusRoot = service.registry.censusRoot) request rfl
    · exact fun before same => (before.resolve_root _).trans same
    · exact fun _ _ _ _ same _ _ => same
  · intro id set isSet
    by_cases isOwn : id = request.id
    · obtain ⟨name, above, before⟩ := inUse.housed
      rw [isOwn, before.set_at_serve] at isSet
      cases known : service.registry.setAt request.id with
      | error error =>
          rw [known] at isSet
          cases isSet
      | ok old =>
          rw [known] at isSet
          rw [← Except.ok.inj isSet]
          exact (inUse.restorable request.id old known).outcome request
    · apply inUse.restorable id set
      rw [← (unchanged id fun _ => isOwn).set]
      exact isSet

theorem InUse.new_census (inUse : InUse config service) :
    InUse config { service with registry := service.registry.newCensus.2 } := by
  obtain ⟨name, above, housed⟩ := inUse.housed
  obtain ⟨after, unchanged⟩ := housed.new_census
  apply inUse.of_registry ⟨name, above, after⟩
  · apply Registry.new_census_keeps (motive := fun after =>
      after.censusRoot = service.registry.censusRoot) rfl
    · exact fun before id same => (before.resolve_root id).trans same
    · exact fun _ _ same => same
  · intro id set isSet
    rw [(unchanged id).set] at isSet
    exact inUse.restorable id set isSet

theorem InUse.store_vote (inUse : InUse config service) (root : CensusRoot) (package : VotePackage)
    (now : Instant) : InUse config (service.storeVote root package now).2 := by
  obtain ⟨housed, unchanged⟩ := inUse.housed.store_vote root package now
  rw [OpenLedger.store_vote_eq] at housed unchanged ⊢
  apply inUse.of_registry housed rfl
  intro id set isSet
  apply inUse.restorable id set
  rw [← (unchanged id).set]
  exact isSet

theorem InUse.perform (inUse : InUse config service) (operation : ServiceOperation) :
    InUse config (service.perform operation).2 := by
  apply perform_keeps inUse operation
  · exact fun request _ => inUse.serve request
  · exact inUse.new_census
  · exact inUse.store_vote

theorem InUse.restart (inUse : InUse config service) {again : Service}
    (restarted : service.restart config = some again) : InUse config again :=
  (inUse.opened_again restarted).in_use

theorem in_use_of_run {opened last : Service} {steps : List ServiceStep}
    {answers : List ServiceAnswer} (formed : before.WellFormed) (known : before.HeldFilesKnown)
    (opening : (openNode before config).1 = .done opened)
    (ran : opened.run config steps = some (answers, last)) : InUse config last := by
  apply run_keeps (opened_on formed known opening).in_use _ _ ran
  · exact fun before operation inUse _ => inUse.perform operation
  · exact fun before again inUse restarted => inUse.restart restarted

end Service

end CensusNode
