import CensusNode.Census.Root
import CensusNode.Time.Instant

/-!
Vote packages: what is submitted against a census root, and what the ledger keeps of it.
-/

namespace CensusNode

def signatureLength : Nat := 64

abbrev Signature := Block 64

/-- A signed submission. Index, public key and Merkle proof are unique across a ledger. -/
structure VotePackage where
  signature : Signature
  index : UInt64
  publicKey : Bytes
  merkleProof : Bytes
  vote : Bytes
deriving DecidableEq

structure StoredVotePackage where
  root : CensusRoot
  package : VotePackage
  insertedAt : Instant
deriving DecidableEq

end CensusNode
