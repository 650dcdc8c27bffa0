import CensusNode.Ledger.Rows
import CensusNode.Text.Blank

/-!
How the database refuses a row that agrees with another one. It names one column in a text, and the
field that a ledger reports is read off that text. The sequence number has a column but no field: it
is no part of what is submitted.
-/

namespace CensusNode

inductive UniqueColumn where
  | index
  | insertionSeq
  | merkleProof
  | publicKey
deriving DecidableEq, Repr

namespace UniqueField

def ofColumn? (name : String) : Option UniqueField :=
  if name = "indx" then some .index
  else if name = "public_key" then some .publicKey
  else if name = "merkle_proof" then some .merkleProof
  else none

/-- The field a refusal is about. Its column is named after the last dot. -/
def ofRefusal? (text : String) : Option UniqueField :=
  let reversed := (text.toList.reverse.takeWhile (· ≠ '.')).dropWhile Text.isBlank
  ofColumn? (String.ofList (reversed.reverse.dropWhile Text.isBlank))

end UniqueField

namespace UniqueColumn

def inOrder : List UniqueColumn := [.index, .insertionSeq, .merkleProof, .publicKey]

def name : UniqueColumn → String
  | .index => "indx"
  | .insertionSeq => "insertion_seq"
  | .merkleProof => "merkle_proof"
  | .publicKey => "public_key"

def refusalText (column : UniqueColumn) : String :=
  "UNIQUE constraint failed: vote_packages." ++ column.name

/-- The error for a package with the given index that is refused in a column. A refusal that is
about no field is passed on as it is. -/
def error (column : UniqueColumn) (index : UInt64) : LedgerError :=
  (UniqueField.ofRefusal? column.refusalText).elim (.database .sequenceTaken) fun field =>
    .constraintViolation field index

example : DatabaseFault.sequenceTaken.message = UniqueColumn.insertionSeq.refusalText := by
  decide +kernel

def isTaken (rows : List VoteRow) (package : VotePackage) (insertionSeq : Int) :
    UniqueColumn → Bool
  | .index => rows.any fun row => row.index = (package.index.toNat : Int)
  | .insertionSeq => rows.any fun row => row.insertionSeq = insertionSeq
  | .merkleProof => rows.any fun row => row.merkleProof = package.merkleProof
  | .publicKey => rows.any fun row => row.publicKey = package.publicKey

end UniqueColumn

end CensusNode
