import CensusNode.Proofs.Census.RootBinding
import CensusNode.Proofs.Merkle.Split

/-!
The root of a census taken apart from the top. A single member has its own digest for the root, and
the root over several is the digest of two roots: that over as many of the first leaves as the
largest power of two below their number, and that over the leaves that are left.
-/

namespace CensusNode.CensusHistory

open IdentitySet Merkle

theorem root_iff_split_root {operations : List CensusOperation} {history : CensusHistory}
    (reached : after operations = .ok history) (root : CensusRoot) :
    history.set.root = .ok root ↔
      splitRoot? (history.set.tables.memberKeys.map leaf) = some root.digest := by
  obtain ⟨same, reachedSame, sound⟩ := after_sound operations
  rw [reached, Except.ok.injEq] at reachedSame
  rw [← reachedSame] at sound
  have shown := sound.shows
  have live : rootOfLeaves (history.admitted.flatten.map leaf) = some root ↔
      root? (history.admitted.flatten.map leaf) = some root.digest := by
    rw [rootOfLeaves, Option.map_eq_some_iff]
    constructor
    · rintro ⟨digest, found, rfl⟩
      exact found
    · intro found
      exact ⟨root.digest, found, rfl⟩
  rw [shown.member_keys, ← root_eq_split_root, ← live]
  exact shown.root_iff root

/-- The root over leaves, found level by level, is the one that the recursion finds: none without
leaves, the leaf itself for one leaf, and for more the digest of the roots of both parts, whichever
number is the largest power of two below theirs. The root of a census, however it came about, is
that over the digests of its members. -/
theorem root_follows_split :
    (∀ leaves, rootOfLeaves leaves = (splitRoot? leaves).map CensusRoot.mk) ∧
    (∀ leaves, rootOfLeaves leaves = none ↔ leaves = []) ∧
    (∀ leaf, rootOfLeaves [leaf] = some ⟨leaf⟩) ∧
    (∀ count, 2 ≤ count → IsGreatest (powersBelow count) (splitPoint count)) ∧
    (∀ leaves point, IsGreatest (powersBelow leaves.length) point →
      ∃ left right, rootOfLeaves (leaves.take point) = some ⟨left⟩ ∧
        rootOfLeaves (leaves.drop point) = some ⟨right⟩ ∧
        rootOfLeaves leaves = some ⟨sha256 (left.bytes ++ right.bytes)⟩) ∧
    (∀ operations history, after operations = .ok history →
      ∀ root, history.set.root = .ok root ↔
        splitRoot? (history.set.tables.memberKeys.map sha256) = some root.digest) := by
  refine ⟨?_, ?_, ?_, ?_, ?_, ?_⟩
  · intro leaves
    rw [rootOfLeaves, root_eq_split_root]
  · intro leaves
    rw [rootOfLeaves, Option.map_eq_none_iff, root_eq_none_iff]
  · intro leaf
    simp [rootOfLeaves, root?]
  · intro count several
    exact split_point_is_greatest several
  · intro leaves point greatest
    obtain ⟨left, right, isLeft, isRight, whole⟩ := root_of_is_greatest greatest
    simp only [rootOfLeaves, isLeft, isRight, whole, Option.map_some]
    exact ⟨left, right, rfl, rfl, rfl⟩
  · intro operations history reached root
    exact root_iff_split_root reached root

def fiveLeaves : List Digest := [1, 2, 3, 4, 5].map fun byte => leaf (uniformKey byte).bytes

/-- The last of five leaves moves up twice before it meets the root of the other four, and the root
of a census with two members is the digest of their digests. -/
theorem five_leaves_are_split :
    IsGreatest (powersBelow fiveLeaves.length) 4 ∧
      (∃ left, rootOfLeaves (fiveLeaves.take 4) = some ⟨left⟩ ∧
        rootOfLeaves fiveLeaves =
          some ⟨sha256 (left.bytes ++ (leaf (uniformKey 5).bytes).bytes)⟩) ∧
      ∃ history, after admittedOneByOne = .ok history ∧ history.set.root = .ok
        ⟨sha256 ((sha256 (uniformKey 1).bytes).bytes ++ (sha256 (uniformKey 2).bytes).bytes)⟩ := by
  obtain ⟨-, -, single, greatest, parts, census⟩ := root_follows_split
  have point : splitPoint 5 = 4 := by decide +kernel
  have four : IsGreatest (powersBelow fiveLeaves.length) 4 := by
    have found := greatest 5 (by decide)
    rwa [point] at found
  refine ⟨four, ?_, ?_⟩
  · obtain ⟨left, right, isLeft, isRight, whole⟩ := parts fiveLeaves 4 four
    have last : rootOfLeaves (fiveLeaves.drop 4) = some ⟨leaf (uniformKey 5).bytes⟩ :=
      single (leaf (uniformKey 5).bytes)
    rw [last, Option.some.injEq, CensusRoot.mk.injEq] at isRight
    rw [isRight]
    exact ⟨left, isLeft, whole⟩
  · have admitted : ∃ history, after admittedOneByOne = .ok history ∧
        history.set.Shows uniformKeys := shows_of_admitted rfl
    obtain ⟨history, reached, shown⟩ := admitted
    refine ⟨history, reached, (census admittedOneByOne history reached _).mpr ?_⟩
    rw [shown.member_keys, uniformKeys, List.map_cons, List.map_cons, List.map_nil,
      ← root_eq_split_root]
    simp only [root?, pairUp, parent]

end CensusNode.CensusHistory
