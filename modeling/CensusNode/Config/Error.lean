import CensusNode.Text.Decimal
import CensusNode.Text.Quoted

/-!
What can be wrong with a configuration.
-/

namespace CensusNode

inductive ConfigError where
  | notAComponent (field value : String)
  | emptyFileName
  | zeroPageSize
  | pageSizesOutOfRange (defaultSize maxSize : Nat)
  | noDataDirectory
  | described (reason : String)
deriving DecidableEq, Repr

def pageSizeLimit : Nat := 100000

def ConfigError.reason : ConfigError → String
  | .notAComponent field value =>
      field ++ " must be a single non-empty path component, got " ++ Text.quoted value
  | .emptyFileName => "file_name must not be empty"
  | .zeroPageSize => "default_page_size must be >= 1"
  | .pageSizesOutOfRange defaultSize maxSize =>
      "max_page_size must be between default_page_size (" ++ Decimal.encode defaultSize ++
        ") and " ++ Decimal.encode pageSizeLimit ++ ", got " ++ Decimal.encode maxSize
  | .noDataDirectory => "data directory is required (--data or ZKCENSUS__DATA)"
  | .described reason => reason

def ConfigError.message (error : ConfigError) : String := "invalid config: " ++ error.reason

end CensusNode
