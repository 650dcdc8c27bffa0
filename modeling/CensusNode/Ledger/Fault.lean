import CensusNode.Ledger.Address
import CensusNode.Text.Decimal

/-!
What the database that holds the rows of a ledger can answer instead of doing its work.
-/

namespace CensusNode

inductive DatabaseFault where
  | cannotOpen (path : String)
  /-- A file beside that of the ledger cannot be opened. -/
  | cannotOpenCompanion
  | address (fault : AddressFault)
  | notADatabase
  | unsupportedFormat
  | malformed
  | ioError
  | readOnly
  | locked
  | lockingProtocol
  | nulByte (position : Nat)
  | sequenceTaken
  | sequenceNotInteger
deriving DecidableEq, Repr

def DatabaseFault.message : DatabaseFault → String
  | .cannotOpen path => "unable to open database file: " ++ path
  | .cannotOpenCompanion => "unable to open database file"
  | .address fault => fault.message
  | .notADatabase => "file is not a database"
  | .unsupportedFormat => "unsupported file format"
  | .malformed => "database disk image is malformed"
  | .ioError => "disk I/O error"
  | .readOnly => "attempt to write a readonly database"
  | .locked => "database is locked"
  | .lockingProtocol => "locking protocol"
  | .nulByte position => "nul byte found in provided data at position: " ++ Decimal.encode position
  | .sequenceTaken => "UNIQUE constraint failed: vote_packages.insertion_seq"
  | .sequenceNotInteger => "Invalid column type Real at index: 7, name: insertion_seq"

end CensusNode
