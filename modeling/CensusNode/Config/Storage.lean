import CensusNode.Codec.Basic
import CensusNode.Config.Error
import CensusNode.Json.Format

/-!
Where the stores of a node lie below its data directory. Both names have to be single path
components.
-/

namespace CensusNode

structure StorageConfig where
  controlFile : String
  censusDirectory : String
deriving DecidableEq, Repr

namespace StorageConfig

def defaults : StorageConfig := ⟨"censuses.redb", "censuses"⟩

/-- Whether a name is a single path component with a name of its own. -/
def isComponent (name : String) : Bool :=
  name ≠ "" && name ≠ "." && name ≠ ".." && !name.toList.contains '/' && !name.toList.contains '\\'

def checkName (field name : String) : Except ConfigError Unit :=
  if isComponent name then .ok () else .error (.notAComponent field name)

def validate (config : StorageConfig) : Except ConfigError Unit := do
  checkName "control_db_file" config.controlFile
  checkName "census_dir" config.censusDirectory

def codec : Codec StorageConfig :=
  (Codec.text.pair Codec.text).map (fun parts => ⟨parts.1, parts.2⟩)
    fun config => (config.controlFile, config.censusDirectory)

def format : Format StorageConfig :=
  (((Record.withDefault "control_db_file" Format.string defaults.controlFile).pair
    (Record.withDefault "census_dir" Format.string defaults.censusDirectory)).map
    (fun parts => ⟨parts.1, parts.2⟩)
    fun config => (config.controlFile, config.censusDirectory)).format

end StorageConfig

end CensusNode
