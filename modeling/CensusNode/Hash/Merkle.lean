import CensusNode.Hash.Sha256

/-!
The Merkle root of a list of digests. A level is paired from the left; the parent of two nodes
is the digest of their concatenation, and an odd last node moves up unchanged. The empty list
has no root.
-/

namespace CensusNode.Merkle

def parent (left right : Digest) : Digest := sha256 (left.bytes ++ right.bytes)

def pairUp : List Digest → List Digest
  | left :: right :: rest => parent left right :: pairUp rest
  | rest => rest

theorem pair_up_length : ∀ level : List Digest, (pairUp level).length = (level.length + 1) / 2
  | [] => rfl
  | [_] => by simp [pairUp]
  | _ :: _ :: rest => by simp only [pairUp, List.length_cons, pair_up_length rest]; omega

/-- The digest left when levels are paired up until one node remains. -/
def root? : List Digest → Option Digest
  | [] => none
  | [leaf] => some leaf
  | first :: second :: rest => root? (pairUp (first :: second :: rest))
termination_by level => level.length
decreasing_by simp only [pair_up_length, List.length_cons]; omega

end CensusNode.Merkle
