import CensusNode.Hash.Merkle
import Mathlib.Algebra.Group.Nat.Defs
import Mathlib.Data.Nat.Log
import Mathlib.Order.Bounds.Basic

/-!
A Merkle root taken apart from the top. Pairing up treats a full left part and what follows it
separately until one node of each is left, so the root of a list is the parent of the roots of its
two parts, where the left one is as long as the largest power of two below the length of the list.
Nodes that move up unchanged stay in the right part however often they move.
-/

namespace CensusNode.Merkle

/-- The largest power of two below a number that is at least two. -/
def splitPoint (count : Nat) : Nat := 2 ^ Nat.log 2 (count - 1)

theorem split_point_lt {count : Nat} (several : 2 ≤ count) : splitPoint count < count := by
  have below : splitPoint count ≤ count - 1 := Nat.pow_log_le_self 2 (by omega)
  omega

theorem split_point_pos (count : Nat) : 0 < splitPoint count := Nat.two_pow_pos _

/-- The root of a list that is taken apart at the largest power of two below its length. -/
def splitRoot? : List Digest → Option Digest
  | [] => none
  | [leaf] => some leaf
  | first :: second :: rest => do
      let leaves := first :: second :: rest
      let left ← splitRoot? (leaves.take (splitPoint leaves.length))
      let right ← splitRoot? (leaves.drop (splitPoint leaves.length))
      some (sha256 (left.bytes ++ right.bytes))
termination_by leaves => leaves.length
decreasing_by
  · have below := @split_point_lt (first :: second :: rest).length (by simp)
    rw [List.length_take]
    omega
  · rw [List.length_drop]
    exact Nat.sub_lt (Nat.zero_lt_succ _) (split_point_pos _)

def powersBelow (count : Nat) : Set Nat :=
  { power | (∃ exponent, power = 2 ^ exponent) ∧ power < count }

theorem split_point_is_greatest {count : Nat} (several : 2 ≤ count) :
    IsGreatest (powersBelow count) (splitPoint count) := by
  refine ⟨⟨⟨_, rfl⟩, split_point_lt several⟩, ?_⟩
  rintro power ⟨⟨exponent, rfl⟩, below⟩
  have small : exponent ≤ Nat.log 2 (count - 1) := Nat.le_log_of_pow_le Nat.one_lt_two (by omega)
  exact Nat.pow_le_pow_right Nat.two_pos small

/-- What follows the largest power of two below a number is no more than that power. -/
theorem exponent_of_is_greatest {count point : Nat}
    (greatest : IsGreatest (powersBelow count) point) :
    ∃ exponent, point = 2 ^ exponent ∧ point < count ∧ count ≤ point + 2 ^ exponent := by
  obtain ⟨⟨⟨exponent, isPower⟩, below⟩, largest⟩ := greatest
  refine ⟨exponent, isPower, below, ?_⟩
  by_contra beyond
  have next : 2 ^ (exponent + 1) ∈ powersBelow count := by
    refine ⟨⟨_, rfl⟩, ?_⟩
    rw [Nat.pow_succ]
    omega
  have more := largest next
  have positive := Nat.two_pow_pos exponent
  rw [Nat.pow_succ] at more
  omega

/-- Pairing up a level once more does not change its root. -/
theorem root_pair_up : ∀ level : List Digest, root? (pairUp level) = root? level
  | [] => rfl
  | [_] => rfl
  | first :: second :: rest => by rw [← root?]

/-- An even number of nodes is paired up by itself. -/
theorem pair_up_append : ∀ (left right : List Digest), left.length % 2 = 0 →
    pairUp (left ++ right) = pairUp left ++ pairUp right
  | [], _, _ => rfl
  | [_], _, even => by cases even
  | first :: second :: rest, right, even => by
      have evenRest : rest.length % 2 = 0 := by
        rw [List.length_cons, List.length_cons] at even
        omega
      simp only [List.cons_append, pairUp, pair_up_append rest right evenRest]

/-- The root over a full left part and a right part no longer than it is the parent of their roots.
The induction is on the height of the left part: pairing up once halves it and leaves the right part
no longer than the left one, whether its last node was paired or moved up. -/
theorem root_append {exponent : Nat} {left right : List Digest}
    (full : left.length = 2 ^ exponent) (some_right : 0 < right.length)
    (fits : right.length ≤ 2 ^ exponent) :
    ∃ leftRoot rightRoot, root? left = some leftRoot ∧ root? right = some rightRoot ∧
      root? (left ++ right) = some (parent leftRoot rightRoot) := by
  induction exponent generalizing left right with
  | zero =>
      have single : right.length = 1 := by omega
      obtain ⟨first, rfl⟩ := List.length_eq_one_iff.mp full
      obtain ⟨second, rfl⟩ := List.length_eq_one_iff.mp single
      exact ⟨first, second, by simp [root?], by simp [root?], by simp [root?, pairUp]⟩
  | succ exponent induction =>
      rw [Nat.pow_succ] at full fits
      obtain ⟨leftRoot, rightRoot, isLeft, isRight, whole⟩ :=
        @induction (pairUp left) (pairUp right) (by rw [pair_up_length]; omega)
          (by rw [pair_up_length]; omega) (by rw [pair_up_length]; omega)
      rw [root_pair_up] at isLeft isRight
      rw [← pair_up_append left right (by omega), root_pair_up] at whole
      exact ⟨leftRoot, rightRoot, isLeft, isRight, whole⟩

/-- The root of a list is the parent of the roots of its parts. -/
theorem root_of_is_greatest {leaves : List Digest} {point : Nat}
    (greatest : IsGreatest (powersBelow leaves.length) point) :
    ∃ left right, root? (leaves.take point) = some left ∧ root? (leaves.drop point) = some right ∧
      root? leaves = some (parent left right) := by
  obtain ⟨exponent, isPower, below, within⟩ := exponent_of_is_greatest greatest
  have full : (leaves.take point).length = 2 ^ exponent := by
    rw [List.length_take]
    omega
  have rest : (leaves.drop point).length = leaves.length - point := List.length_drop
  have parts := root_append full (by rw [rest]; omega) (by rw [rest]; omega)
  rwa [List.take_append_drop] at parts

/-- Pairing up level by level finds the root that taking the list apart finds. -/
theorem root_eq_split_root (leaves : List Digest) : root? leaves = splitRoot? leaves := by
  induction leaves using splitRoot?.induct with
  | case1 => simp [root?, splitRoot?]
  | case2 leaf => simp [root?, splitRoot?]
  | case3 first second rest leaves leftInduction rightInduction =>
      have several : 2 ≤ leaves.length := Nat.le_add_left 2 rest.length
      obtain ⟨left, right, isLeft, isRight, whole⟩ :=
        root_of_is_greatest (split_point_is_greatest several)
      rw [leftInduction] at isLeft
      rw [rightInduction] at isRight
      rw [whole, splitRoot?, isLeft]
      simp only [Option.bind_eq_bind, Option.bind_some, isRight, leaves]
      rfl

end CensusNode.Merkle
