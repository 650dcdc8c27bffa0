import CensusNode.Census.Tables
import CensusNode.Ledger.Header
import CensusNode.Ledger.Rows

/-!
The contents of a file: a store, a ledger, or bytes that are neither. What matters about any of
them to someone who opens it as a store or as a ledger is asked here.
-/

namespace CensusNode

structure LedgerImage where
  /-- Whether changes go to a log beside the file first. -/
  logged : Bool
  /-- The rows, once there is a table for them. -/
  rows : Option (List VoteRow)
deriving DecidableEq, Repr

inductive FileContent where
  | store (store : Store)
  | ledger (image : LedgerImage)
  | raw (bytes : Bytes)
deriving DecidableEq, Repr

namespace FileContent

def empty : FileContent := .raw []

def isEmpty : FileContent → Bool
  | .raw [] => true
  | _ => false

/-- The store in a file; a file that holds none counts as a new one. -/
def asStore : FileContent → Store
  | .store contents => contents
  | _ => Store.empty

/-- The rows in a ledger file; a file that holds none counts as a new one. -/
def rows : FileContent → List VoteRow
  | .ledger ⟨_, some rows⟩ => rows
  | _ => []

/-- Whether a ledger file has any page. A single byte is none. -/
def hasPages : FileContent → Bool
  | .raw bytes => 1 < bytes.length
  | _ => true

def startsWithNull : FileContent → Bool
  | .raw bytes => bytes.head? = some 0
  | _ => false

/-- Whether changes of a ledger file go to a log beside it first. -/
def logged (content : FileContent) : Except DatabaseFault Bool :=
  match content with
  | .store _ => .error .notADatabase
  | .ledger image => .ok image.logged
  | .raw bytes => if content.hasPages then LedgerHeader.logged bytes else .ok false

def layoutFault? (content : FileContent) : Option DatabaseFault :=
  match content with
  | .raw bytes => if content.hasPages then LedgerHeader.layoutFault? bytes else none
  | _ => none

def frozen (content : FileContent) : Bool :=
  match content with
  | .raw bytes => content.hasPages && LedgerHeader.frozen bytes
  | _ => false

def switchOnLog (content : FileContent) : FileContent :=
  match content with
  | .ledger image => .ledger { image with logged := true }
  | .raw bytes =>
      if content.hasPages then .raw (LedgerHeader.switchOnLog bytes) else .ledger ⟨true, none⟩
  | .store _ => content

def hasTable : FileContent → Bool
  | .ledger ⟨_, some _⟩ => true
  | _ => false

def tableFault? (content : FileContent) : Option DatabaseFault :=
  match content with
  | .raw bytes => if content.hasPages then LedgerHeader.tableFault? bytes else none
  | _ => none

def withRows (content : FileContent) (rows : List VoteRow) : FileContent :=
  .ledger ⟨content.logged.toOption.getD false, some rows⟩

end FileContent

end CensusNode
