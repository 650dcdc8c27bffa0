import CensusNode.Codec.Basic
import CensusNode.Json.Format

/-!
The machine-readable classes of failure. Codes from 1000 are about storage, from 2000 about
censuses, from 3000 about the ledger and from 4000 about requests and configuration.
-/

namespace CensusNode

inductive ErrorCode where
  | storageFault
  | notFound
  | batchValidation
  | computeFault
  | censusClosed
  | constraintViolation
  | invalidArgument
  | serialization
  | config
deriving DecidableEq, Repr

namespace ErrorCode

def all : List ErrorCode :=
  [.storageFault, .notFound, .batchValidation, .computeFault, .censusClosed,
   .constraintViolation, .invalidArgument, .serialization, .config]

def number : ErrorCode → UInt16
  | .storageFault => 1000
  | .notFound => 2000
  | .batchValidation => 2001
  | .computeFault => 2002
  | .censusClosed => 2003
  | .constraintViolation => 3000
  | .invalidArgument => 4000
  | .serialization => 4001
  | .config => 4002

def ofNumber? (number : UInt16) : Option ErrorCode :=
  all.find? fun code => code.number = number

def name : ErrorCode → String
  | .storageFault => "StorageFault"
  | .notFound => "NotFound"
  | .batchValidation => "BatchValidation"
  | .computeFault => "ComputeFault"
  | .censusClosed => "CensusClosed"
  | .constraintViolation => "ConstraintViolation"
  | .invalidArgument => "InvalidArgument"
  | .serialization => "Serialization"
  | .config => "Config"

/-- Whether the same request may succeed when it is made again. -/
def isRetryable : ErrorCode → Bool
  | .storageFault | .computeFault => true
  | _ => false

def suggestedAction : ErrorCode → String
  | .storageFault =>
      "Check disk space, filesystem permissions, and I/O health. Retry after investigation."
  | .notFound => "Verify the identifier was allocated and the store is initialized."
  | .batchValidation =>
      "Fix or drop the rejected keys and resubmit the batch. " ++
        "No key of a rejected batch was admitted."
  | .computeFault => "Add members to the census before requesting its root."
  | .censusClosed => "Closed censuses are read-only. Allocate a new census instead."
  | .constraintViolation =>
      "The index, public key, or merkle proof was already submitted. Do not resubmit."
  | .invalidArgument => "Fix the request parameters and resubmit."
  | .serialization =>
      "Persisted data could not be decoded. Report as an issue with the affected census id."
  | .config => "Fix the configuration value and restart."

def codec : Codec ErrorCode := Codec.oneOf all

def format : Format ErrorCode := Format.oneOf all name

end ErrorCode

end CensusNode
