import CensusNode.Config.Ledger
import CensusNode.Config.Storage
import CensusNode.Path

/-!
The configuration of a node: its data directory, the layout of its stores and its ledger. All
locations are joined onto the data directory.
-/

namespace CensusNode

structure NodeConfig where
  dataDirectory : String
  storage : StorageConfig
  ledger : LedgerConfig
deriving DecidableEq, Repr

namespace NodeConfig

def validate (config : NodeConfig) : Except ConfigError Unit := do
  config.storage.validate
  config.ledger.validate

def controlPath (config : NodeConfig) : String :=
  Path.join config.dataDirectory config.storage.controlFile

def censusRootPath (config : NodeConfig) : String :=
  Path.join config.dataDirectory config.storage.censusDirectory

def ledgerPath (config : NodeConfig) : String :=
  Path.join config.dataDirectory config.ledger.fileName

def codec : Codec NodeConfig :=
  (Codec.text.pair (StorageConfig.codec.pair LedgerConfig.codec)).map
    (fun parts => ⟨parts.1, parts.2.1, parts.2.2⟩)
    fun config => (config.dataDirectory, config.storage, config.ledger)

def format : Format NodeConfig :=
  (((Record.required "data_dir" Format.string).pair
    ((Record.withDefault "storage" StorageConfig.format StorageConfig.defaults).pair
      (Record.withDefault "ledger" LedgerConfig.format LedgerConfig.defaults))).map
    (fun parts => ⟨parts.1, parts.2.1, parts.2.2⟩)
    fun config => (config.dataDirectory, config.storage, config.ledger)).format

end NodeConfig

end CensusNode
