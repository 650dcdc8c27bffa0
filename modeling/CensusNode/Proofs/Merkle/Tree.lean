import CensusNode.Hash.Merkle

/-!
The tree behind a Merkle root. Pairing up digests level by level grows a binary tree over the
strings behind the first level; its digest is the root, its leaves are those strings in order, and
what is hashed for its nodes is what pairing up hashes. A tree of leaves of one digest length is
determined by its digest unless two of the hashed strings collide: a leaf hashes 32 bytes and a
node hashes 64, so the two kinds never stand for each other.
-/

namespace CensusNode.Merkle

def pairInputs : List Digest → List Bytes
  | left :: right :: rest => (left.bytes ++ right.bytes) :: pairInputs rest
  | _ => []

/-- The strings hashed on the way from a level to its root. -/
def rootInputs : List Digest → List Bytes
  | first :: second :: rest =>
      pairInputs (first :: second :: rest) ++ rootInputs (pairUp (first :: second :: rest))
  | _ => []
termination_by level => level.length
decreasing_by simp only [pair_up_length, List.length_cons]; omega

theorem root_eq_none_iff (level : List Digest) : root? level = none ↔ level = [] := by
  match level with
  | [] => simp [root?]
  | [_] => simp [root?]
  | first :: second :: rest =>
      have smaller : (pairUp (first :: second :: rest)).length < rest.length + 2 := by
        rw [pair_up_length, List.length_cons, List.length_cons]
        omega
      rw [root?, root_eq_none_iff (pairUp (first :: second :: rest))]
      simp [pairUp]
termination_by level.length

/-- Two different strings among the given ones have the same digest. -/
def Collide (inputs : List Bytes) : Prop :=
  ∃ first ∈ inputs, ∃ second ∈ inputs, first ≠ second ∧ sha256 first = sha256 second

theorem eq_of_sha256_eq {inputs : List Bytes} (safe : ¬Collide inputs) {first second : Bytes}
    (firstMember : first ∈ inputs) (secondMember : second ∈ inputs)
    (same : sha256 first = sha256 second) : first = second := by
  apply Decidable.byContradiction
  intro different
  exact safe ⟨first, firstMember, second, secondMember, different, same⟩

inductive Tree where
  | leaf (key : Bytes)
  | node (left right : Tree)

namespace Tree

/-- The digest of a tree: that of its string, or of the digests of both subtrees. -/
def digest : Tree → Digest
  | .leaf key => sha256 key
  | .node left right => parent left.digest right.digest

def keys : Tree → List Bytes
  | .leaf key => [key]
  | .node left right => left.keys ++ right.keys

def preimage : Tree → Bytes
  | .leaf key => key
  | .node left right => left.digest.bytes ++ right.digest.bytes

def inputs : Tree → List Bytes
  | .leaf key => [key]
  | .node left right => (left.digest.bytes ++ right.digest.bytes) :: (left.inputs ++ right.inputs)

theorem digest_eq_sha256_preimage (tree : Tree) : tree.digest = sha256 tree.preimage := by
  cases tree <;> rfl

theorem preimage_mem_inputs (tree : Tree) : tree.preimage ∈ tree.inputs := by
  cases tree <;> simp [preimage, inputs]

theorem preimage_eq_of_digest_eq {hashed : List Bytes} (safe : ¬Collide hashed) {left right : Tree}
    (leftHashed : ∀ input ∈ left.inputs, input ∈ hashed)
    (rightHashed : ∀ input ∈ right.inputs, input ∈ hashed)
    (same : left.digest = right.digest) : left.preimage = right.preimage := by
  apply eq_of_sha256_eq safe
  · exact leftHashed _ (preimage_mem_inputs left)
  · exact rightHashed _ (preimage_mem_inputs right)
  · rw [← digest_eq_sha256_preimage, ← digest_eq_sha256_preimage, same]

theorem node_preimage_length (left right : Tree) : (node left right).preimage.length = 64 := by
  simp only [preimage, List.length_append, left.digest.length_eq, right.digest.length_eq]

/-- A tree over strings of 32 bytes for which only the given strings are hashed. -/
structure IsOver (hashed : List Bytes) (tree : Tree) : Prop where
  key_length : ∀ key ∈ tree.keys, key.length = 32
  mem_hashed : ∀ input ∈ tree.inputs, input ∈ hashed

theorem IsOver.left {hashed : List Bytes} {left right : Tree}
    (isOver : IsOver hashed (node left right)) : IsOver hashed left where
  key_length key member := isOver.key_length key (by simp [keys, member])
  mem_hashed input member := isOver.mem_hashed input (by simp [inputs, member])

theorem IsOver.right {hashed : List Bytes} {left right : Tree}
    (isOver : IsOver hashed (node left right)) : IsOver hashed right where
  key_length key member := isOver.key_length key (by simp [keys, member])
  mem_hashed input member := isOver.mem_hashed input (by simp [inputs, member])

theorem IsOver.leaf_preimage_length {hashed : List Bytes} {key : Bytes}
    (isOver : IsOver hashed (leaf key)) : (leaf key).preimage.length = 32 :=
  isOver.key_length key (by simp [keys])

/-- Where nothing collides, trees over strings of 32 bytes with one digest are one tree. The two
trees are taken apart together; their preimages agree at every step, and the length of a preimage
tells a leaf from a node. -/
theorem eq_of_digest_eq {hashed : List Bytes} (safe : ¬Collide hashed) (left right : Tree)
    (leftOver : IsOver hashed left) (rightOver : IsOver hashed right)
    (same : left.digest = right.digest) : left = right := by
  induction left generalizing right with
  | leaf key =>
      have preimages := preimage_eq_of_digest_eq safe leftOver.mem_hashed rightOver.mem_hashed same
      cases right with
      | leaf other => exact congrArg leaf preimages
      | node third fourth =>
          have long := node_preimage_length third fourth
          rw [← preimages, leftOver.leaf_preimage_length] at long
          omega
  | node first second firstInduction secondInduction =>
      have preimages := preimage_eq_of_digest_eq safe leftOver.mem_hashed rightOver.mem_hashed same
      cases right with
      | leaf other =>
          have long := node_preimage_length first second
          rw [preimages, rightOver.leaf_preimage_length] at long
          omega
      | node third fourth =>
          have halves := List.append_inj preimages
            (by rw [first.digest.length_eq, third.digest.length_eq])
          rw [firstInduction third leftOver.left rightOver.left (Block.eq_of_bytes_eq halves.1),
            secondInduction fourth leftOver.right rightOver.right
              (Block.eq_of_bytes_eq halves.2)]

def joinPairs : List Tree → List Tree
  | left :: right :: rest => node left right :: joinPairs rest
  | rest => rest

theorem digests_join_pairs : ∀ level : List Tree,
    (joinPairs level).map digest = pairUp (level.map digest)
  | [] => rfl
  | [_] => rfl
  | left :: right :: rest => by
      simp only [joinPairs, List.map_cons, pairUp, digest, digests_join_pairs rest]

theorem keys_join_pairs : ∀ level : List Tree,
    (joinPairs level).flatMap keys = level.flatMap keys
  | [] => rfl
  | [_] => rfl
  | left :: right :: rest => by
      simp only [joinPairs, List.flatMap_cons, keys, keys_join_pairs rest, List.append_assoc]

/-- What is hashed for the trees above a level is hashed for the level or for pairing it up. -/
theorem mem_inputs_join_pairs : ∀ (level : List Tree) (input : Bytes),
    input ∈ (joinPairs level).flatMap inputs →
      input ∈ level.flatMap inputs ++ pairInputs (level.map digest)
  | [], _, member => by simp [joinPairs] at member
  | [_], _, member => by simpa [joinPairs, pairInputs] using member
  | left :: right :: rest, input, member => by
      simp only [joinPairs, List.flatMap_cons, inputs, List.cons_append, List.mem_cons,
        List.mem_append] at member
      have later := mem_inputs_join_pairs rest input
      simp only [List.mem_append] at later
      simp only [List.map_cons, pairInputs, List.flatMap_cons, List.mem_append, List.mem_cons]
      rcases member with here | (inLeft | inRight) | above
      · exact Or.inr (Or.inl here)
      · exact Or.inl (Or.inl inLeft)
      · exact Or.inl (Or.inr (Or.inl inRight))
      · rcases later above with below | paired
        · exact Or.inl (Or.inr (Or.inr below))
        · exact Or.inr (Or.inr paired)

/-- The root of a level is the digest of one tree over the strings of the level, and nothing is
hashed for that tree that is not hashed for the level or on the way to the root. The induction is
on the number of trees, which pairing up makes smaller. -/
theorem exists_of_level (level : List Tree) (nonempty : level ≠ []) :
    ∃ tree : Tree, root? (level.map digest) = some tree.digest ∧
      tree.keys = level.flatMap keys ∧
      ∀ input ∈ tree.inputs, input ∈ level.flatMap inputs ++ rootInputs (level.map digest) := by
  match level with
  | [] => exact absurd rfl nonempty
  | [tree] =>
      refine ⟨tree, by simp [root?], by simp, ?_⟩
      intro input member
      simpa [rootInputs] using member
  | first :: second :: rest =>
      have smaller : (joinPairs (first :: second :: rest)).length < rest.length + 2 := by
        have lengths := congrArg List.length (digests_join_pairs (first :: second :: rest))
        rw [List.length_map, pair_up_length, List.length_map, List.length_cons,
          List.length_cons] at lengths
        omega
      obtain ⟨tree, isRoot, sameKeys, hashed⟩ :=
        exists_of_level (joinPairs (first :: second :: rest)) (by simp [joinPairs])
      refine ⟨tree, ?_, ?_, ?_⟩
      · rw [List.map_cons, List.map_cons, root?]
        rw [digests_join_pairs] at isRoot
        exact isRoot
      · rw [sameKeys, keys_join_pairs]
      · intro input member
        rw [List.map_cons, List.map_cons, rootInputs]
        have found := hashed input member
        rw [digests_join_pairs, List.mem_append] at found
        rcases found with below | above
        · have split := mem_inputs_join_pairs (first :: second :: rest) input below
          simp only [List.map_cons, List.mem_append] at split ⊢
          rcases split with lower | paired
          · exact Or.inl lower
          · exact Or.inr (Or.inl paired)
        · simp only [List.map_cons, List.mem_append] at above ⊢
          exact Or.inr (Or.inr above)
termination_by level.length

end Tree

/-- The strings hashed to find the root over the digests of strings. -/
def hashedFor (keys : List Bytes) : List Bytes := keys ++ rootInputs (keys.map sha256)

theorem exists_tree (keys : List Bytes) (nonempty : keys ≠ []) :
    ∃ tree : Tree, root? (keys.map sha256) = some tree.digest ∧ tree.keys = keys ∧
      ∀ input ∈ tree.inputs, input ∈ hashedFor keys := by
  have digests : (keys.map Tree.leaf).map Tree.digest = keys.map sha256 := by
    rw [List.map_map]
    rfl
  have strings (strings : Tree → List Bytes) (single : ∀ key, strings (.leaf key) = [key]) :
      (keys.map Tree.leaf).flatMap strings = keys := by
    rw [List.flatMap_map]
    simp only [single, List.flatMap_singleton']
  have found := Tree.exists_of_level (keys.map Tree.leaf) (by simpa using nonempty)
  rw [digests, strings Tree.keys (fun _ => rfl), strings Tree.inputs (fun _ => rfl)] at found
  exact found

/-- The root over the digests of strings of 32 bytes determines the list of strings, unless two of
the strings hashed for it or for the other list collide. -/
theorem eq_of_root_eq {left right : List Bytes}
    (leftLengths : ∀ key ∈ left, key.length = 32) (rightLengths : ∀ key ∈ right, key.length = 32)
    (same : root? (left.map sha256) = root? (right.map sha256))
    (safe : ¬Collide (hashedFor left ++ hashedFor right)) : left = right := by
  by_cases leftEmpty : left = []
  · by_cases rightEmpty : right = []
    · rw [leftEmpty, rightEmpty]
    · obtain ⟨tree, isRoot, -⟩ := exists_tree right rightEmpty
      rw [isRoot, leftEmpty] at same
      simp [root?] at same
  · obtain ⟨tree, isRoot, keys, hashed⟩ := exists_tree left leftEmpty
    by_cases rightEmpty : right = []
    · rw [isRoot, rightEmpty] at same
      simp [root?] at same
    · obtain ⟨other, otherRoot, otherKeys, otherHashed⟩ := exists_tree right rightEmpty
      rw [isRoot, otherRoot, Option.some.injEq] at same
      have isOver : tree.IsOver (hashedFor left ++ hashedFor right) :=
        ⟨by rwa [keys], fun input member => List.mem_append_left _ (hashed input member)⟩
      have otherOver : other.IsOver (hashedFor left ++ hashedFor right) :=
        ⟨by rwa [otherKeys], fun input member => List.mem_append_right _ (otherHashed input member)⟩
      have trees : tree = other := Tree.eq_of_digest_eq safe tree other isOver otherOver same
      rw [← keys, trees, otherKeys]

end CensusNode.Merkle
