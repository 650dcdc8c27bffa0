import CensusNode.Disk.Fault
import CensusNode.ErrorCode
import CensusNode.Ledger.Cursor
import CensusNode.Ledger.Fault

/-!
What can go wrong with the vote ledger.
-/

namespace CensusNode

inductive UniqueField where
  | index
  | publicKey
  | merkleProof
deriving DecidableEq, Repr

def UniqueField.name : UniqueField → String
  | .index => "index"
  | .publicKey => "public_key"
  | .merkleProof => "merkle_proof"

inductive RowFault where
  | rootLength (length : Nat)
  | signatureLength (length : Nat)
  | negativeIndex (index : Int)
  | timestampRange (micros : Int)
  | described (reason : String)
deriving DecidableEq, Repr

def RowFault.message : RowFault → String
  | .rootLength length => (RootFault.invalidLength length).message
  | .signatureLength length => "signature is " ++ Decimal.encode length ++ " bytes"
  | .negativeIndex index => "negative index " ++ Decimal.encodeInt index
  | .timestampRange micros => "timestamp " ++ Decimal.encodeInt micros ++ " out of range"
  | .described reason => reason

inductive LedgerError where
  | createDirectory (path : String) (fault : IoFault)
  | openFile (path : String) (fault : DatabaseFault)
  | database (fault : DatabaseFault)
  | constraintViolation (field : UniqueField) (index : UInt64)
  | indexOutOfRange (index : UInt64)
  | notFound (index : UInt64)
  | invalidCursor (fault : CursorFault)
  | corruptRow (fault : RowFault)
deriving DecidableEq, Repr

namespace LedgerError

def message : LedgerError → String
  | .createDirectory path fault =>
      "Failed to create ledger directory " ++ path ++ ": " ++ fault.message
  | .openFile path fault => "Failed to open ledger at " ++ path ++ ": " ++ fault.message
  | .database fault => "SQLite error: " ++ fault.message
  | .constraintViolation field index =>
      "Vote package " ++ Decimal.encode index.toNat ++ " conflicts with an existing " ++ field.name
  | .indexOutOfRange index =>
      "Vote index " ++ Decimal.encode index.toNat ++ " exceeds the storable range"
  | .notFound index => "No vote package with index " ++ Decimal.encode index.toNat
  | .invalidCursor fault => "Invalid page cursor: " ++ fault.message
  | .corruptRow fault => "Corrupt vote package row: " ++ fault.message

def code : LedgerError → ErrorCode
  | .createDirectory .. | .openFile .. | .database _ | .corruptRow _ => .storageFault
  | .constraintViolation .. => .constraintViolation
  | .indexOutOfRange _ | .invalidCursor _ => .invalidArgument
  | .notFound _ => .notFound

end LedgerError

end CensusNode
