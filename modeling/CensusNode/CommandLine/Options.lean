import CensusNode.Config.Node

/-!
The options that every command takes, and the node configuration they amount to.
-/

namespace CensusNode

inductive LogFormat where
  | auto
  | text
  | json
deriving DecidableEq, Repr

def LogFormat.ofName? : String → Option LogFormat
  | "auto" => some .auto
  | "text" => some .text
  | "json" => some .json
  | _ => none

structure NodeOptions where
  dataDirectory : Option String
  controlFile : Option String
  censusDirectory : Option String
  ledgerFile : Option String
  busyTimeout : Option Duration
  logFormat : LogFormat
deriving DecidableEq, Repr

namespace NodeOptions

def storage (options : NodeOptions) : StorageConfig :=
  { controlFile := options.controlFile.getD StorageConfig.defaults.controlFile
    censusDirectory := options.censusDirectory.getD StorageConfig.defaults.censusDirectory }

def ledger (options : NodeOptions) : LedgerConfig :=
  { LedgerConfig.defaults with
    fileName := options.ledgerFile.getD LedgerConfig.defaults.fileName
    busyTimeout := options.busyTimeout.getD LedgerConfig.defaults.busyTimeout }

/-- The checked configuration of the options. A data directory has to be given. -/
def nodeConfig (options : NodeOptions) : Except ConfigError NodeConfig :=
  match options.dataDirectory with
  | none => .error .noDataDirectory
  | some dataDirectory => do
      options.storage.validate
      options.ledger.validate
      .ok { dataDirectory, storage := options.storage, ledger := options.ledger }

end NodeOptions

end CensusNode
