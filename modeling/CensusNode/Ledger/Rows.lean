import CensusNode.Config.Ledger
import CensusNode.Ledger.Error
import CensusNode.Ledger.Package

/-!
The rows of a vote ledger and what is asked of them. A new row takes the sequence number after
the largest one. The listing of a root is ordered by insertion time and then by sequence number,
both descending, and a page is a window of it below a position.
-/

namespace CensusNode

/-- A row of the ledger as the database holds it. A sequence number of `2 ^ 63` stands for one
that has left the integers. -/
structure VoteRow where
  root : Bytes
  signature : Bytes
  index : Int
  publicKey : Bytes
  merkleProof : Bytes
  vote : Bytes
  insertedAt : Int
  insertionSeq : Int
deriving DecidableEq, Repr

structure VotePage where
  packages : List StoredVotePackage
  nextCursor : Option String
deriving DecidableEq

def maxRowInteger : Nat := 9223372036854775807

namespace VoteRow

def stored (row : VoteRow) : Except LedgerError StoredVotePackage :=
  match Block.ofBytes? 32 row.root with
  | none => .error (.corruptRow (.rootLength row.root.length))
  | some digest =>
      match Block.ofBytes? 64 row.signature with
      | none => .error (.corruptRow (.signatureLength row.signature.length))
      | some signature =>
          if row.index < 0 then .error (.corruptRow (.negativeIndex row.index))
          else
            match Instant.ofMicros? row.insertedAt with
            | none => .error (.corruptRow (.timestampRange row.insertedAt))
            | some insertedAt =>
                let package : VotePackage :=
                  { signature, index := UInt64.ofNat row.index.toNat, publicKey := row.publicKey
                    merkleProof := row.merkleProof, vote := row.vote }
                .ok { root := ⟨digest⟩, package, insertedAt }

def precedes (row other : VoteRow) : Bool :=
  other.insertedAt < row.insertedAt ||
    (row.insertedAt = other.insertedAt && other.insertionSeq ≤ row.insertionSeq)

def isBelow (row : VoteRow) (insertedAt insertionSeq : Int) : Bool :=
  row.insertedAt < insertedAt ||
    (row.insertedAt = insertedAt && row.insertionSeq < insertionSeq)

def hasIntegerSeq (row : VoteRow) : Bool := row.insertionSeq ≤ maxRowInteger

end VoteRow

namespace VoteRows

def largestSeq : List VoteRow → Int
  | [] => 0
  | row :: rest => rest.foldl (fun largest other => max largest other.insertionSeq) row.insertionSeq

/-- The sequence number of a new row. It stays where it is once it has left the integers. -/
def nextSeq (rows : List VoteRow) : Int :=
  let largest := largestSeq rows
  if maxRowInteger < largest then largest else largest + 1

/-- Why a package cannot be added under a sequence number: the first column, in the order the
database compares them, in which it would agree with a row that is there. -/
def refusal? (rows : List VoteRow) (package : VotePackage) (insertionSeq : Int) :
    Option LedgerError :=
  if rows.any fun row => row.index = (package.index.toNat : Int) then
    some (.constraintViolation .index package.index)
  else if rows.any fun row => row.insertionSeq = insertionSeq then some (.database .sequenceTaken)
  else if rows.any fun row => row.merkleProof = package.merkleProof then
    some (.constraintViolation .merkleProof package.index)
  else if rows.any fun row => row.publicKey = package.publicKey then
    some (.constraintViolation .publicKey package.index)
  else none

def rowOf (root : CensusRoot) (package : VotePackage) (now : Instant) (insertionSeq : Int) :
    VoteRow :=
  { root := root.bytes, signature := package.signature.bytes, index := package.index.toNat
    publicKey := package.publicKey, merkleProof := package.merkleProof, vote := package.vote
    insertedAt := now.micros, insertionSeq }

def isStorable (package : VotePackage) : Bool := package.index.toNat ≤ maxRowInteger

def store (rows : List VoteRow) (root : CensusRoot) (package : VotePackage) (now : Instant) :
    Except LedgerError (List VoteRow) :=
  if !isStorable package then .error (.indexOutOfRange package.index)
  else
    let insertionSeq := nextSeq rows
    match refusal? rows package insertionSeq with
    | some error => .error error
    | none => .ok (rows ++ [rowOf root package now insertionSeq])

def listing (rows : List VoteRow) (root : CensusRoot) : List VoteRow :=
  (rows.filter fun row => row.root = root.bytes).mergeSort VoteRow.precedes

def readable (rows : List VoteRow) : Except LedgerError (List VoteRow) :=
  if rows.all VoteRow.hasIntegerSeq then .ok rows else .error (.database .sequenceNotInteger)

def storedAll : List VoteRow → Except LedgerError (List StoredVotePackage)
  | [] => .ok []
  | row :: rest =>
      match row.stored with
      | .error error => .error error
      | .ok package =>
          match storedAll rest with
          | .ok packages => .ok (package :: packages)
          | .error error => .error error

def byRoot (rows : List VoteRow) (root : CensusRoot) : Except LedgerError (List VotePackage) := do
  let found ← readable (listing rows root)
  let packages ← storedAll found
  .ok (packages.map StoredVotePackage.package)

/-- The position a page starts below. Without a cursor it is the largest there can be. -/
def startOf (root : CensusRoot) : Option String → Except LedgerError (Int × Int)
  | none => .ok (maxRowInteger, maxRowInteger)
  | some text =>
      match PageCursor.decode text root with
      | .ok cursor => .ok (cursor.insertedAt.toInt, cursor.insertionSeq.toInt)
      | .error fault => .error (.invalidCursor fault)

def cursorAfter (root : CensusRoot) (row : VoteRow) : String :=
  (PageCursor.after root (Int64.ofInt row.insertedAt) (Int64.ofInt row.insertionSeq)).encode

/-- A page of the listing of a root. One row more than the page holds is looked at, to tell
whether there is a next page. -/
def page (config : LedgerConfig) (rows : List VoteRow) (root : CensusRoot)
    (cursor : Option String) (limit : Nat) : Except LedgerError VotePage := do
  let size := config.clampPageSize limit
  let (insertedAt, insertionSeq) ← startOf root cursor
  let window := (listing rows root).filter fun row => row.isBelow insertedAt insertionSeq
  let fetched ← readable (window.take (size + 1))
  let shown := fetched.take size
  let packages ← storedAll shown
  let nextCursor := if size < fetched.length then shown.getLast?.map (cursorAfter root) else none
  .ok { packages, nextCursor }

def get (rows : List VoteRow) (index : UInt64) : Except LedgerError StoredVotePackage := do
  match rows.find? fun row => row.index = (index.toNat : Int) with
  | none => .error (.notFound index)
  | some row =>
      let _ ← readable [row]
      row.stored

def count (rows : List VoteRow) (root : CensusRoot) : Nat :=
  (rows.filter fun row => row.root = root.bytes).length

end VoteRows

end CensusNode
