import CensusNode.Proofs.Registry.Twins
import CensusNode.Service.Basic

/-!
Opening a service. A service that could be opened is sound: its registry has a counter that can be
read and no census loaded, and its ledger is in use.
-/

namespace CensusNode

namespace Registry

variable {made disk : Disk} {location : Location} {registry : Registry} {path root : String}

/-- A registry that was just opened on a disk with the directories that it needs. -/
structure Started (location : Location) (made : Disk) (root : String) (registry : Registry)
    (store : Store) : Prop where
  opened : Opened location made registry.disk registry.control store
  held : registry.disk.held = [registry.control]
  readable : ∃ next, Counter.read (Counter.tableOf store) = .ok next
  root : registry.censusRoot = root
  loaded : registry.loaded = []

theorem Opened.set_store {later : Disk} {file : FileId} {store : Store}
    (opened : Opened location made later file store) (next : Store) :
    Opened location made (later.setStore file next) file next where
  formed := opened.formed.set_content
  within := opened.within.trans
    (Disk.keeps_set_content opened.formed opened.named List.mem_cons_self).toWithin
  named := opened.named
  holds := Disk.file_set_content_self opened.formed opened.named
  same := opened.same

/-- The registry whose control store was opened and then seeded. -/
theorem open_at_of_opened {later : Disk} {file : FileId} {store seeded : Store} {next : CensusId}
    (isOpen : openStoreIn disk (Path.namedParent? path) path = (.ok file, later.hold file))
    (opened : Opened location made later file store) (free : later.held = [])
    (seeding : Counter.seed store = .ok (next, seeded)) :
    ∃ registry, openAt disk path root = (.ok registry, registry.disk) ∧
      Started location made root registry seeded := by
  have contents : (later.hold file).storeAt file = store := opened.store_at
  have started := (opened.owned (file :: later.held)).set_store seeded
  refine ⟨⟨(later.hold file).setStore file seeded, file, root, [], 0⟩, ?_, started, ?_,
    ⟨next, Counter.seed_spec seeding⟩, rfl, rfl⟩
  · simp only [openAt, isOpen, contents, seeding]
  · change file :: later.held = [file]
    rw [free]

theorem nothing_held {later : Disk} (free : later.held = []) (file : FileId) :
    later.isHeld file = false := by
  rw [Disk.isHeld, free]
  rfl

theorem started_of_open_at {after : Disk} (formed : disk.WellFormed) (free : disk.held = [])
    (opening : openAt disk path root = (.ok registry, after)) :
    ∃ location store, (disk.prepare (Path.namedParent? path)).2.Prepared (Path.namedParent? path) ∧
      (disk.prepare (Path.namedParent? path)).2.locate path = .ok location ∧
      Started location (disk.prepare (Path.namedParent? path)).2 root registry store ∧
      after = registry.disk := by
  have grows := disk.prepare_grows (Path.namedParent? path)
  have unheld (location : Location) :
      ((disk.prepare (Path.namedParent? path)).2.fileFor location).2.isHeld
        ((disk.prepare (Path.namedParent? path)).2.fileFor location).1 = false := by
    apply nothing_held
    rw [Disk.held_file_for, grows.held, free]
  rcases open_store_in_spec formed (fun location _ => unheld location) with
    ⟨error, -, refused⟩ | ⟨store, location, file, later, shown, isOpen, located, opened, held⟩
  · rw [openAt, refused] at opening
    cases opening
  · obtain ⟨prepared, -⟩ := outcome_eq_ok shown
    have contents : (later.hold file).storeAt file = store := opened.store_at
    cases seeding : Counter.seed store with
    | error error =>
        simp only [openAt, isOpen, contents, seeding] at opening
        cases opening
    | ok pair =>
        obtain ⟨next, seeded⟩ := pair
        obtain ⟨found, isFound, started⟩ :=
          open_at_of_opened isOpen opened (held.trans free) seeding
        rw [isFound] at opening
        cases opening
        exact ⟨location, seeded, Disk.prepared_of_prepare prepared, located, started, rfl⟩

section

variable {before between : Disk} {store : Store}

/-- Opening the control store leaves what lies elsewhere as it was, and so do the directories made
before and after it. -/
theorem Started.outside (started : Started location made root registry store)
    (first : before.Grows made) (second : registry.disk.Grows between) {place : Location}
    (different : place ≠ location) :
    between.fileAt? place = before.fileAt? place ∧ between.file? place = before.file? place := by
  have apart : place ∉ [location] := by
    rw [List.mem_singleton]
    exact different
  rw [second.file_at, second.file, started.opened.within.names place apart,
    started.opened.within.files place apart, first.file_at, first.file]
  exact ⟨rfl, rfl⟩

theorem Started.ledger_place (started : Started location made root registry store)
    (first : before.Grows made) (second : registry.disk.Grows between) {place : Location}
    (found : Ledger.locate between path = some place) :
    Ledger.locate before path = some place := by
  have same : between.workingDirectory = before.workingDirectory := by
    rw [second.working_directory, started.opened.within.working_directory, first.working_directory]
  apply Ledger.locate_of_more same _ found
  intro other absent
  by_cases isControl : other = location
  · rw [isControl, second.file_at, started.opened.named] at absent
    cases absent
  · rw [← (started.outside first second isControl).1, absent]

theorem Started.is_own (started : Started location made root registry store)
    (first : before.Grows made) (second : registry.disk.Grows between) {place : Location}
    (own : ∀ content, before.file? place = some content → Ledger.IsOwn content)
    {content : FileContent} (holds : between.file? place = some content) :
    Ledger.IsOwn content := by
  by_cases isControl : place = location
  · rw [isControl, second.file, started.opened.holds] at holds
    exact Or.inr (Or.inl ⟨store, (Option.some.inj holds).symm⟩)
  · rw [(started.outside first second isControl).2] at holds
    exact own content holds

end

theorem Started.sound {site : Site} {ledger : OpenLedger} {rows : List VoteRow} {store : Store}
    {between later : Disk} (usable : site.Usable)
    (started : Started site.control made site.config.censusRootPath registry store)
    (grows : registry.disk.Grows between) (onDisk : site.On later)
    (keeps : between.Keeps (Ledger.filesOf site.ledger) later)
    (running : Ledger.Running site.ledger later ledger rows) :
    Sound site ledger rows { registry with disk := later } := by
  have names : later.fileAt? site.control = registry.disk.fileAt? site.control := by
    rw [keeps.names _ usable.control, grows.file_at]
  have files : later.file? site.control = registry.disk.file? site.control := by
    rw [keeps.files _ usable.control, grows.file]
  obtain ⟨next, readable⟩ := started.readable
  constructor
  · exact onDisk
  · exact started.root
  · exact names.trans started.opened.named
  · exact ⟨store, next, files.trans started.opened.holds, readable⟩
  · intro file
    have held : later.held = [registry.control] := by
      rw [keeps.held, grows.held, started.held]
    simp [Disk.isHeld, held, started.loaded]
  · simp [started.loaded]
  · simp [started.loaded]
  · exact running

end Registry

theorem Ledger.open_at_spec {disk after : Disk} {path : String} {config : LedgerConfig}
    {ledger : OpenLedger} (plain : LedgerAddress.place path = .ok (.file path .defaults))
    (opened : Ledger.openAt disk path config = (.done ledger, after)) :
    disk.prepare (Path.namedParent? path) = (none, (disk.prepare (Path.namedParent? path)).2) ∧
      path.toList.idxOf? '\x00' = none ∧
      Ledger.openFile (disk.prepare (Path.namedParent? path)).2 path path .defaults config =
        (.done ledger, after) := by
  unfold Ledger.openAt at opened
  cases preparing : disk.prepare (Path.namedParent? path) with
  | mk failure made =>
      rw [preparing] at opened
      cases failure with
      | some failure => cases opened
      | none =>
          simp only [plain] at opened
          cases broken : path.toList.idxOf? '\x00' with
          | some position =>
              rw [broken] at opened
              cases opened
          | none =>
              rw [broken] at opened
              exact ⟨rfl, rfl, opened⟩

namespace Service

variable {site : Site} {rows : List VoteRow} {service : Service}

structure Sound (site : Site) (rows : List VoteRow) (service : Service) : Prop where
  registry : Registry.Sound site service.ledger rows service.registry
  config : service.config = site.config.ledger

theorem open_node_spec {before : Disk} {config : NodeConfig}
    (opened : (openNode before config).1 = .done service) :
    config.validate = .ok () ∧
      ∃ registry disk after, Registry.openAt before config.controlPath config.censusRootPath =
          (.ok registry, disk) ∧
        Ledger.openAt disk config.ledgerPath config.ledger = (.done service.ledger, after) ∧
        service = ⟨{ registry with disk := after }, service.ledger, config.ledger⟩ := by
  unfold openNode at opened
  cases valid : config.validate with
  | error fault =>
      rw [valid] at opened
      cases opened
  | ok _ =>
      rw [valid] at opened
      cases first : Registry.openAt before config.controlPath config.censusRootPath with
      | mk answer disk =>
          rw [first] at opened
          cases answer with
          | error fault => cases opened
          | ok registry =>
              cases second : Ledger.openAt disk config.ledgerPath config.ledger with
              | mk outcome last =>
                  simp only [second] at opened
                  cases outcome with
                  | crashed => cases opened
                  | failed fault => cases opened
                  | done ledger =>
                      cases opened
                      exact ⟨rfl, registry, disk, last, rfl, second, rfl⟩

/-- A service that could be opened is sound when its files are apart and what lies in the place of
its ledger was left there by a service. -/
theorem sound_of_open {before : Disk} (formed : before.WellFormed) (free : before.held = [])
    (opened : (openNode before site.config).1 = .done service) (apart : site.Apart)
    (controlPlace : service.disk.locate site.config.controlPath = .ok site.control)
    (ledgerPlace : Ledger.locate before site.config.ledgerPath = some site.ledger)
    (own : ∀ content, before.file? site.ledger = some content → Ledger.IsOwn content) :
    site.Usable ∧ ∃ rows, service.Sound site rows := by
  obtain ⟨valid, registry, disk, after, first, second, isService⟩ := open_node_spec opened
  have isAfter : service.disk = after := by rw [isService, Service.disk]
  rw [isAfter] at controlPlace
  obtain ⟨location, store, controlPrepared, located, started, isDisk⟩ :=
    Registry.started_of_open_at formed free first
  rw [isDisk] at second
  obtain ⟨preparing, unbroken, opening⟩ := Ledger.open_at_spec apart.plain second
  have grows := before.prepare_grows (Path.namedParent? site.config.controlPath)
  have growsOn := registry.disk.prepare_grows (Path.namedParent? site.config.ledgerPath)
  have ledgerPrepared := Disk.prepared_of_prepare preparing
  have between := Disk.prepare_well_formed started.opened.formed
    (Path.namedParent? site.config.ledgerPath)
  generalize (registry.disk.prepare (Path.namedParent? site.config.ledgerPath)).2 = made at *
  have only (place : Location) (isPlace : Ledger.locate made site.config.ledgerPath = some place) :
      place = site.ledger := by
    have found := started.ledger_place grows growsOn isPlace
    rw [ledgerPlace] at found
    exact (Option.some.inj found).symm
  have ownFile (place : Location) (content : FileContent)
      (isPlace : Ledger.locate made site.config.ledgerPath = some place)
      (holds : made.file? place = some content) : Ledger.IsOwn content := by
    rw [only place isPlace] at holds
    exact started.is_own grows growsOn own holds
  obtain ⟨place, rows, isPlace, running, laterFormed, keeps, inTime⟩ :=
    Ledger.open_file_running between ownFile opening
  have isLedger := only place isPlace
  rw [isLedger] at isPlace running keeps
  have usable : site.Usable := ⟨apart, valid, unbroken, inTime⟩
  have toMade := started.opened.within.extended.trans growsOn.toExtends
  have toAfter := toMade.trans keeps.extended
  have isControl := Disk.locate_extends toAfter located
  rw [controlPlace] at isControl
  rw [← Except.ok.inj isControl] at started
  have onDisk : site.On after := by
    constructor
    · exact laterFormed
    · exact controlPlace
    · exact controlPrepared.extends toAfter
    · rw [Ledger.locate_extends between laterFormed keeps.extended ledgerPrepared, isPlace]
    · exact ledgerPrepared.extends keeps.extended
  refine ⟨usable, rows, ?_, ?_⟩
  · rw [isService]
    exact started.sound usable growsOn onDisk keeps running
  · rw [isService]

end Service

end CensusNode
