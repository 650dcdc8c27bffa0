import CensusNode.CommandLine.Options
import CensusNode.Proofs.Service.Runs

/-!
Openings that bring the process down. There are two of them: a control store that is only a header,
and a ledger that can be read with a waiting time beyond the limit. The check of a configuration does
not look at the waiting time, so a configuration that it lets pass may still open no node.
-/

namespace CensusNode

namespace Ledger

variable {disk : Disk} {path target : String} {options : LedgerOptions} {config : LedgerConfig}

theorem open_file_crashed
    (crashed : (openFile disk path target options config).1 = .crashed) :
    busyTimeoutLimit < config.busyTimeout.millis := by
  rw [openFile] at crashed
  split at crashed
  · cases crashed
  · simp only at crashed
    split at crashed
    · cases crashed
    · split at crashed
      · assumption
      · split at crashed
        · cases crashed
        · cases crashed

theorem open_fleeting_crashed {readOnly : Bool}
    (crashed : (openFleeting disk readOnly config).1 = .crashed) :
    busyTimeoutLimit < config.busyTimeout.millis := by
  rw [openFleeting] at crashed
  split at crashed
  · assumption
  · split at crashed
    · cases crashed
    · cases crashed

/-- Only a waiting time beyond the limit brings down whoever opens a ledger. -/
theorem open_at_crashed (crashed : (openAt disk path config).1 = .crashed) :
    busyTimeoutLimit < config.busyTimeout.millis := by
  rw [openAt] at crashed
  split at crashed
  · cases crashed
  · split at crashed
    · cases crashed
    · cases crashed
    · exact open_fleeting_crashed crashed
    · exact open_file_crashed crashed

end Ledger

namespace Registry

variable {disk after : Disk} {directory : Option String} {path root : String}

/-- What lies in the place of a store brings down whoever opens it. -/
def Damaged (disk : Disk) (directory : Option String) (path : String) : Prop :=
  ∃ location bytes, (disk.prepare directory).2.locate path = .ok location ∧
    disk.file? location = some (.raw bytes) ∧ StoreHeader.fault bytes = .crashed

theorem open_store_file_crashed {file : FileId}
    (crashed : (disk.openStoreFile file).1 = .error .crashed) :
    ∃ bytes, disk.content file = .raw bytes ∧ StoreHeader.fault bytes = .crashed := by
  rw [Disk.openStoreFile] at crashed
  split at crashed
  · cases crashed
  · split at crashed
    · cases crashed
    · cases crashed
    · cases crashed
    · rename_i bytes _ holds
      exact ⟨bytes, holds, Except.error.inj crashed⟩

theorem open_store_crashed (crashed : (disk.openStore path).1 = .error .crashed) :
    ∃ location bytes, disk.locate path = .ok location ∧
      disk.file? location = some (.raw bytes) ∧ StoreHeader.fault bytes = .crashed := by
  rw [Disk.openStore] at crashed
  split at crashed
  · cases crashed
  · rename_i location located
    split at crashed
    · cases crashed
    · have opened : ((disk.fileFor location).2.openStoreFile (disk.fileFor location).1).1 =
          .error .crashed := crashed
      obtain ⟨bytes, holds, isCrash⟩ := open_store_file_crashed opened
      refine ⟨location, bytes, located, ?_, isCrash⟩
      cases named : disk.fileAt? location with
      | some file =>
          rw [Disk.file_for_of_named named] at holds
          rw [Disk.file_of_named named, holds]
      | none =>
          -- A file that is made for the store has no bytes, so nothing is wrong with them.
          have fresh := Disk.file_file_for_of_free named
          rw [Disk.file_of_named (disk.file_at_file_for location), holds] at fresh
          cases fresh
          cases isCrash

theorem open_store_in_crashes {error : StoreError}
    (opened : (openStoreIn disk directory path).1 = .error error) (crashes : error.crashes = true) :
    Damaged disk directory path := by
  have files := (disk.prepare_grows directory).file
  rw [Damaged]
  rw [openStoreIn] at opened
  cases preparing : disk.prepare directory with
  | mk failure made =>
      simp only [preparing] at opened files ⊢
      cases failure with
      | some failure =>
          cases opened
          cases crashes
      | none =>
          simp only at opened
          cases opening : made.openStore path with
          | mk answer later =>
              rw [opening] at opened
              cases answer with
              | ok file => cases opened
              | error fault =>
                  cases opened
                  have isCrash : fault = .crashed := by
                    cases fault with
                    | crashed => rfl
                    | _ => cases crashes
                  have crashed : (made.openStore path).1 = .error .crashed := by
                    rw [opening, isCrash]
                  obtain ⟨location, bytes, located, holds, isFault⟩ := open_store_crashed crashed
                  rw [files] at holds
                  exact ⟨location, bytes, located, holds, isFault⟩

/-- Only a damaged control store brings down whoever opens a registry. -/
theorem open_at_crashes {error : RegistryError}
    (opened : (openAt disk path root).1 = .error error) (crashes : error.crashes = true) :
    Damaged disk (Path.namedParent? path) path := by
  rw [openAt] at opened
  split at opened
  · rename_i storeError later opening
    cases opened
    apply open_store_in_crashes _ crashes
    rw [opening]
  · simp only at opened
    split at opened
    · cases opened
      cases crashes
    · cases opened

end Registry

namespace NodeConfig

/-- Whether opening with a configuration always ends, well or with an error: a node, unless its
control store is damaged, and a ledger at any path. -/
def OpensSafely (config : NodeConfig) : Prop :=
  (∀ disk, ¬Registry.Damaged disk (Path.namedParent? config.controlPath) config.controlPath →
    (Service.openNode disk config).1 ≠ .crashed ∧
      ∀ error, (Service.openNode disk config).1 = .failed error → error.crashes = false) ∧
  ∀ disk path, (Ledger.openAt disk path config.ledger).1 ≠ .crashed

variable {config : NodeConfig}

theorem safe_of_failed {error : ServiceError} (harmless : error.crashes = false) :
    (Outcome.failed error : Outcome ServiceError Service) ≠ .crashed ∧
      ∀ other, (Outcome.failed error : Outcome ServiceError Service) = .failed other →
        other.crashes = false := by
  constructor
  · intro crash
    cases crash
  · intro other same
    rw [← Outcome.failed.inj same]
    exact harmless

theorem opens_safely (fits : config.ledger.busyTimeout.millis ≤ Ledger.busyTimeoutLimit) :
    config.OpensSafely := by
  have ledgers (disk : Disk) (path : String) :
      (Ledger.openAt disk path config.ledger).1 ≠ .crashed :=
    fun crashed => Nat.not_lt.mpr fits (Ledger.open_at_crashed crashed)
  refine ⟨fun disk intact => ?_, ledgers⟩
  have registries {error : RegistryError}
      (opened : (Registry.openAt disk config.controlPath config.censusRootPath).1 = .error error) :
      error.crashes = false := by
    rw [← Bool.not_eq_true]
    exact fun crashes => intact (Registry.open_at_crashes opened crashes)
  rw [Service.openNode]
  cases config.validate with
  | error error => exact safe_of_failed rfl
  | ok _ =>
      simp only
      cases opening : Registry.openAt disk config.controlPath config.censusRootPath with
      | mk answer made =>
          rw [opening] at registries
          cases answer with
          | error error => exact safe_of_failed (registries rfl)
          | ok registry =>
              have apart := ledgers made config.ledgerPath
              simp only
              cases starting : Ledger.openAt made config.ledgerPath config.ledger with
              | mk outcome after =>
                  rw [starting] at apart
                  cases outcome with
                  | crashed => exact absurd rfl apart
                  | failed error => exact safe_of_failed rfl
                  | done ledger =>
                      constructor
                      · intro crash
                        cases crash
                      · intro error failed
                        cases failed

theorem usual_config_opens_safely :
    Service.usualSite.config.ledger.busyTimeout.millis ≤ Ledger.busyTimeoutLimit ∧
      Service.usualSite.config.OpensSafely :=
  ⟨by decide, opens_safely (by decide)⟩

def overlongWait : Duration := ⟨2147483, 648000000, by decide, by decide⟩

def patientConfig : NodeConfig :=
  ⟨"data", StorageConfig.defaults, { LedgerConfig.defaults with busyTimeout := overlongWait }⟩

/-- The waiting time can be asked for in the options, which pass the check of a configuration, and
then the node cannot be opened. -/
theorem patient_config_crashes :
    (DurationText.decode "2147483648ms").toOption = some overlongWait ∧
      (NodeOptions.mk (some "data") none none none (some overlongWait) .auto).nodeConfig =
        .ok patientConfig ∧
      patientConfig.validate = .ok () ∧
      (Service.openNode Service.blankDisk patientConfig).1 = .crashed ∧
      ¬patientConfig.OpensSafely := by
  have crash : (match (Service.openNode Service.blankDisk patientConfig).1 with
      | .crashed => true
      | _ => false) = true := by
    decide +kernel
  have crashed : (Service.openNode Service.blankDisk patientConfig).1 = .crashed := by
    split at crash
    · assumption
    · cases crash
  refine ⟨by decide +kernel, rfl, rfl, crashed, fun safe => ?_⟩
  apply (safe.1 Service.blankDisk ?_).1 crashed
  rintro ⟨location, bytes, -, holds, -⟩
  cases holds

end NodeConfig

end CensusNode
