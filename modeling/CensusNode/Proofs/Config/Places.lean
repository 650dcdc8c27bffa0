import CensusNode.Proofs.Registry.Directories
import CensusNode.Proofs.Service.Runs

/-!
Where the files of a configuration lie. The control store and the census stores lie inside of the
data directory whatever they are called, and so does the ledger exactly when its file name stays
there. The names then decide whether all stores are apart: those that the check of a configuration
admits may clash.
-/

namespace CensusNode

open CensusNode.Path

theorem Decimal.encode_ne_of_letter {name : String} {char : Char} (member : char ∈ name.toList)
    (letter : Decimal.isDigit char = false) (number : Nat) : Decimal.encode number ≠ name := by
  intro same
  rw [← same] at member
  rw [Decimal.is_digit_of_mem_encode member] at letter
  cases letter

/-- What a disk has at a place is as it was: the name of a file, and what is in the file. -/
structure Disk.Spares (disk after : Disk) (place : Location) : Prop where
  name : after.fileAt? place = disk.fileAt? place
  file : after.file? place = disk.file? place

section

variable {disk after : Disk} {path : String} {place : Location}

theorem Disk.Grows.spares (grows : disk.Grows after) (place : Location) : disk.Spares after place :=
  ⟨grows.file_at place, grows.file place⟩

theorem Registry.open_store_in_spares (formed : disk.WellFormed) (known : disk.HeldFilesKnown)
    (directory : Option String) (elsewhere : place ≠ lead disk.workingDirectory path) :
    disk.Spares (openStoreIn disk directory path).2 place := by
  have grows := disk.prepare_grows directory
  rcases open_store_in_cases known directory path with
    ⟨error, -, refused⟩ | ⟨-, refused⟩ | ⟨location, store, available, -, opened⟩
  · rw [refused]
    exact grows.spares place
  · rw [refused]
    exact grows.spares place
  · have isPlace := Disk.lead_of_locate available.located
    rw [grows.working_directory] at isPlace
    rw [← isPlace] at elsewhere
    have keeps := Disk.with_store_keeps (Disk.prepare_well_formed formed directory) available.free
      store
    have outside : place ∉ [location] := by rwa [List.mem_singleton]
    rw [opened]
    constructor
    · rw [Disk.file_at_hold, keeps.names place outside, grows.file_at]
    · rw [Disk.file_hold, keeps.files place outside, grows.file]

/-- Opening a ledger changes no file but the one that its path leads to and its companions. -/
theorem Ledger.open_at_spares (formed : disk.WellFormed) {target : String} {options : LedgerOptions}
    (placed : LedgerAddress.place path = .ok (.file target options)) (config : LedgerConfig)
    (elsewhere : place ∉ filesOf (lead disk.workingDirectory target)) :
    disk.Spares (openAt disk path config).2 place := by
  rcases open_at_cases formed placed config with ⟨-, -, grows, -⟩ | ⟨_, visited, -⟩
  · exact grows.spares place
  · obtain ⟨name, file⟩ := visited.untouched elsewhere
    exact ⟨name, file⟩

end

namespace NodeConfig

variable {config : NodeConfig}

def storePath (config : NodeConfig) (id : CensusId) : String :=
  Registry.censusPath config.censusRootPath id

def storeNames (config : NodeConfig) (id : CensusId) : List String :=
  [config.storage.censusDirectory, Decimal.encode id.value.toNat, Registry.storeFileName]

theorem is_name_of_store_names (valid : config.validate = .ok ()) (id : CensusId) :
    ∀ name ∈ config.storeNames id, IsName name := by
  simp only [storeNames, List.forall_mem_cons]
  exact ⟨(names_of_validate valid).2, Decimal.is_name_encode _, Registry.is_name_store_file, by simp⟩

theorem under_control (valid : config.validate = .ok ()) :
    Under config.dataDirectory [config.storage.controlFile] config.controlPath :=
  (under_self _).join_plain (names_of_validate valid).1.plain

theorem under_census_root (valid : config.validate = .ok ()) :
    Under config.dataDirectory [config.storage.censusDirectory] config.censusRootPath :=
  (under_self _).join_plain (names_of_validate valid).2.plain

theorem under_store (valid : config.validate = .ok ()) (id : CensusId) :
    Under config.dataDirectory (config.storeNames id) (config.storePath id) :=
  ((under_census_root valid).join_plain (Decimal.is_name_encode _).plain).join_plain
    Registry.is_name_store_file.plain

theorem under_ledger (stays : StaysBelow config.ledger.fileName) :
    Under config.dataDirectory (segments config.ledger.fileName) config.ledgerPath :=
  (under_self _).join_relative stays.relative

def Encloses (config : NodeConfig) (start : Location) (path : String) : Prop :=
  (lead start path).Below (lead start config.dataDirectory)

/-- The stores lie inside of the data directory, wherever that is. The ledger does so in every data
directory exactly when its file name stays there. What a disk finds at a path inside is inside. -/
theorem files_lie_inside (valid : config.validate = .ok ()) :
    (∀ start, config.Encloses start config.controlPath ∧
      config.Encloses start config.censusRootPath ∧
      ∀ id, config.Encloses start (config.storePath id)) ∧
    ((∀ directory start, Encloses { config with dataDirectory := directory } start
      (ledgerPath { config with dataDirectory := directory })) ↔
        StaysBelow config.ledger.fileName) ∧
    ∀ (disk : Disk) (path : String) (location : Location),
      config.Encloses disk.workingDirectory path → disk.Finds path location →
        location.Below (lead disk.workingDirectory config.dataDirectory) := by
  refine ⟨?_, ?_, ?_⟩
  · intro start
    obtain ⟨isControl, isCensuses⟩ := names_of_validate valid
    have control : descends 0 [config.storage.controlFile] = true :=
      descends_names (List.forall_mem_singleton.mpr isControl) 0 Nat.one_pos
    have censuses : descends 0 [config.storage.censusDirectory] = true :=
      descends_names (List.forall_mem_singleton.mpr isCensuses) 0 Nat.one_pos
    refine ⟨(under_control valid).below control start,
      (under_census_root valid).below censuses start, ?_⟩
    intro id
    have store : descends 0 (config.storeNames id) = true :=
      descends_names (is_name_of_store_names valid id) 0 (by simp [storeNames])
    exact (under_store valid id).below store start
  · exact stays_below_iff config.ledger.fileName
  · intro disk path location inside finds
    rw [finds.eq_lead]
    exact inside

def nestedConfig : NodeConfig :=
  ⟨"../node/", ⟨"...", "censuses"⟩,
    { LedgerConfig.defaults with fileName := "censuses/./votes//../ledger.sqlite" }⟩

theorem nested_config_lies_inside :
    nestedConfig.validate = .ok () ∧
      nestedConfig.Encloses ["home"] nestedConfig.controlPath ∧
      Service.blankDisk.Finds nestedConfig.ledgerPath ["ledger.sqlite", "censuses", "node"] ∧
      Location.Below ["ledger.sqlite", "censuses", "node"] (lead [] "../node/") := by
  have valid : nestedConfig.validate = .ok () := by decide
  have finds : Service.blankDisk.Finds nestedConfig.ledgerPath
      ["ledger.sqlite", "censuses", "node"] := by
    apply Or.inr
    decide +kernel
  obtain ⟨stores, ledger, found⟩ := files_lie_inside valid
  have inside : nestedConfig.Encloses [] nestedConfig.ledgerPath :=
    ledger.mpr (by decide) "../node/" []
  exact ⟨valid, (stores ["home"]).1, finds, found Service.blankDisk _ _ inside finds⟩

def climbingConfig : NodeConfig :=
  ⟨"data", StorageConfig.defaults, { LedgerConfig.defaults with fileName := "../votes.sqlite" }⟩

/-- The file name passes the check, and the node makes its ledger outside of the data directory. -/
theorem climbing_config_writes_outside :
    climbingConfig.validate = .ok () ∧ ¬StaysBelow climbingConfig.ledger.fileName ∧
      ¬climbingConfig.Encloses [] climbingConfig.ledgerPath ∧
      (Service.openNode Service.blankDisk climbingConfig).2.fileAt? ["votes.sqlite"] = some 1 := by
  refine ⟨by decide, by decide, ?_, by decide +kernel⟩
  rintro ⟨names, -, same⟩
  have data : lead [] climbingConfig.dataDirectory = ["data"] := by decide
  have ledger : lead [] climbingConfig.ledgerPath = ["votes.sqlite"] := by decide
  have last := congrArg List.getLast? same
  rw [data, ledger, List.getLast?_append] at last
  exact absurd last (by simp)

structure StoresApart (config : NodeConfig) : Prop where
  ledger_control : Apart config.ledgerPath config.controlPath
  ledger_store : ∀ id, Apart config.ledgerPath (config.storePath id)
  control_store : ∀ id, Apart config.controlPath (config.storePath id)
  stores : ∀ id other, id ≠ other → Apart (config.storePath id) (config.storePath other)

structure Clears (config : NodeConfig) (names : List String) : Prop where
  control : Diverge names [config.storage.controlFile]
  store : ∀ id, Diverge names (config.storeNames id)

structure NamesApart (config : NodeConfig) : Prop where
  storage : config.storage.controlFile ≠ config.storage.censusDirectory
  written : config.Clears (solid (segments config.ledger.fileName))
  taken : config.Clears (resolved (segments config.ledger.fileName))

theorem diverge_store_names {id other : CensusId} (different : id ≠ other) :
    Diverge (config.storeNames id) (config.storeNames other) := by
  have names : Decimal.encode id.value.toNat ≠ Decimal.encode other.value.toNat :=
    fun same => different (CensusId.eq_of_encode same)
  simp [Diverge, storeNames, names, names.symm]

theorem diverge_control_iff (id : CensusId) :
    Diverge [config.storage.controlFile] (config.storeNames id) ↔
      config.storage.controlFile ≠ config.storage.censusDirectory := by
  simp [Diverge, storeNames]

theorem control_apart_iff (valid : config.validate = .ok ()) (id : CensusId) :
    Apart config.controlPath (config.storePath id) ↔
      config.storage.controlFile ≠ config.storage.censusDirectory := by
  have control := List.forall_mem_singleton.mpr (names_of_validate valid).1
  have store := is_name_of_store_names valid id
  rw [(under_control valid).apart_iff (under_store valid id) (descends_names control 0 Nat.one_pos)
    (descends_names store 0 (by simp [storeNames])), solid_names control, solid_names store,
    resolved_names control, resolved_names store, diverge_control_iff, and_self]

theorem stores_are_apart (valid : config.validate = .ok ()) {id other : CensusId}
    (different : id ≠ other) : Apart (config.storePath id) (config.storePath other) := by
  have first := is_name_of_store_names valid id
  have second := is_name_of_store_names valid other
  rw [(under_store valid id).apart_iff (under_store valid other)
    (descends_names first 0 (by simp [storeNames]))
    (descends_names second 0 (by simp [storeNames])), solid_names first, solid_names second,
    resolved_names first, resolved_names second, and_self]
  exact diverge_store_names different

/-- The ledger is apart from a file at plain names when its own part from these. -/
theorem ledger_apart_iff (stays : StaysBelow config.ledger.fileName) {names : List String}
    (plain : ∀ name ∈ names, IsName name) (some_name : 0 < names.length) {path : String}
    (under : Under config.dataDirectory names path) :
    Apart config.ledgerPath path ↔
      Diverge (solid (segments config.ledger.fileName)) names ∧
        Diverge (resolved (segments config.ledger.fileName)) names := by
  rw [(under_ledger stays).apart_iff under stays.down
    (descends_names plain 0 (by rwa [Nat.zero_add])), solid_names plain, resolved_names plain]

theorem stores_apart_iff (valid : config.validate = .ok ())
    (stays : StaysBelow config.ledger.fileName) : config.StoresApart ↔ config.NamesApart := by
  have control := ledger_apart_iff stays (List.forall_mem_singleton.mpr (names_of_validate valid).1)
    Nat.one_pos (under_control valid)
  have store (id : CensusId) := ledger_apart_iff stays (is_name_of_store_names valid id)
    (by simp [storeNames]) (under_store valid id)
  constructor
  · intro apart
    have fromControl := control.mp apart.ledger_control
    have fromStore := fun id => (store id).mp (apart.ledger_store id)
    constructor
    · exact (control_apart_iff valid ⟨0⟩).mp (apart.control_store ⟨0⟩)
    · exact ⟨fromControl.1, fun id => (fromStore id).1⟩
    · exact ⟨fromControl.2, fun id => (fromStore id).2⟩
  · intro apart
    constructor
    · exact control.mpr ⟨apart.written.control, apart.taken.control⟩
    · exact fun id => (store id).mpr ⟨apart.written.store id, apart.taken.store id⟩
    · exact fun id => (control_apart_iff valid id).mpr apart.storage
    · exact fun id other => stores_are_apart valid

/-- The stores of different censuses are always apart. The control store is apart from them unless
it has the name of their directory. As long as the ledger stays inside of the data directory, its
names decide whether all are apart. Opening a file leaves alone what lies at a path that is apart
from its own, the companions of a ledger excepted. -/
theorem stores_lie_apart (valid : config.validate = .ok ()) :
    (∀ id other, id ≠ other → Apart (config.storePath id) (config.storePath other)) ∧
    (∀ id, Apart config.controlPath (config.storePath id) ↔
      config.storage.controlFile ≠ config.storage.censusDirectory) ∧
    (StaysBelow config.ledger.fileName → (config.StoresApart ↔ config.NamesApart)) ∧
    ∀ (disk : Disk) (path other : String), disk.WellFormed → disk.HeldFilesKnown →
      Apart path other →
      (∀ directory, disk.Spares (Registry.openStoreIn disk directory path).2
        (lead disk.workingDirectory other)) ∧
      (LedgerAddress.place path = .ok (.file path .defaults) →
        lead disk.workingDirectory other ∉
          Ledger.companions (lead disk.workingDirectory path) →
        disk.Spares (Ledger.openAt disk path config.ledger).2
          (lead disk.workingDirectory other)) := by
  refine ⟨fun id other => stores_are_apart valid, control_apart_iff valid, stores_apart_iff valid, ?_⟩
  intro disk path other formed known apart
  have elsewhere : lead disk.workingDirectory other ≠ lead disk.workingDirectory path := by
    intro same
    apply (apart.resolved disk.workingDirectory).1
    rw [same]
  constructor
  · exact fun directory => Registry.open_store_in_spares formed known directory elsewhere
  · intro placed noCompanion
    apply Ledger.open_at_spares formed placed config.ledger
    rw [Ledger.filesOf, List.mem_cons, not_or]
    exact ⟨elsewhere, noCompanion⟩

theorem nested_config_lies_apart :
    nestedConfig.validate = .ok () ∧ StaysBelow nestedConfig.ledger.fileName ∧
      nestedConfig.StoresApart ∧
      Service.blankDisk.Spares (Ledger.openAt Service.blankDisk nestedConfig.ledgerPath
        nestedConfig.ledger).2 (lead [] nestedConfig.controlPath) := by
  have valid : nestedConfig.validate = .ok () := by decide
  have stays : StaysBelow nestedConfig.ledger.fileName := by decide
  have written : solid (segments nestedConfig.ledger.fileName) =
      ["censuses", "votes", "..", "ledger.sqlite"] := by
    decide
  have taken : resolved (segments nestedConfig.ledger.fileName) =
      ["censuses", "ledger.sqlite"] := by
    decide
  have apart : nestedConfig.NamesApart := by
    constructor
    · decide
    · rw [written]
      refine ⟨by decide, fun id => ?_⟩
      have other : Decimal.encode id.value.toNat ≠ "votes" :=
        Decimal.encode_ne_of_letter (show 'v' ∈ "votes".toList by decide) (by decide) _
      simp [Diverge, storeNames, nestedConfig, other, other.symm]
    · rw [taken]
      refine ⟨by decide, fun id => ?_⟩
      have other : Decimal.encode id.value.toNat ≠ "ledger.sqlite" :=
        Decimal.encode_ne_of_letter (show 'l' ∈ "ledger.sqlite".toList by decide) (by decide) _
      simp [Diverge, storeNames, nestedConfig, other, other.symm]
  obtain ⟨-, -, decided, spared⟩ := stores_lie_apart valid
  have stores : nestedConfig.StoresApart := (decided stays).mpr apart
  have known : Service.blankDisk.HeldFilesKnown := fun _ held => by cases held
  have opening := (spared Service.blankDisk _ _ Service.blank_disk_well_formed known
    stores.ledger_control).2
  exact ⟨valid, stays, stores, opening (by decide +kernel) (by decide)⟩

def sharedConfig : NodeConfig :=
  ⟨"data", StorageConfig.defaults, { LedgerConfig.defaults with fileName := "censuses.redb" }⟩

def refusal? (disk : Disk) (config : NodeConfig) : Option ServiceError :=
  match (Service.openNode disk config).1 with
  | .failed error => some error
  | _ => none

/-- The names pass the check, and the control store keeps the ledger from being opened. -/
theorem shared_config_blocks_ledger :
    sharedConfig.validate = .ok () ∧ sharedConfig.ledgerPath = sharedConfig.controlPath ∧
      ¬sharedConfig.StoresApart ∧
      refusal? Service.blankDisk sharedConfig =
        some (.ledger (.openFile "data/censuses.redb" .notADatabase)) := by
  have same : sharedConfig.ledgerPath = sharedConfig.controlPath := by decide
  refine ⟨by decide, same, ?_, by decide +kernel⟩
  intro apart
  have clash := apart.ledger_control.written.1
  rw [same] at clash
  exact clash ⟨rfl, List.prefix_refl _⟩

end NodeConfig

end CensusNode
