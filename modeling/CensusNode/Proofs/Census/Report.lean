import CensusNode.Proofs.Census.Admission
import Mathlib.Data.List.Basic

/-!
What is reported of a batch. Each refused key is named by its position with the first reason that
applies: its length, the identity point, an equal key earlier in the batch, a member with this key.
Keys of the wrong shape are remembered like all others while a batch is gone through; that does not
show, as an equal key is refused for its own shape first.
-/

namespace CensusNode

open IdentitySet (Admissible)

/-- When a reason is the one reported of a key that comes after the given keys of its batch, for a
census with the given members. -/
def Rejection.AppliesTo (members : List Bytes) (before : List PublicKey) (key : PublicKey) :
    Rejection → Prop
  | .wrongLength length => length = key.bytes.length ∧ key.bytes.length ≠ 32
  | .identityPoint => key.bytes = List.replicate 32 0
  | .duplicateInBatch => Admissible key.bytes ∧ key ∈ before
  | .duplicateInCensus => Admissible key.bytes ∧ key ∉ before ∧ key.bytes ∈ members

/-- A report of a batch: by ascending position, the keys to which a reason applies. -/
structure Reported (members : List Bytes) (batch : List PublicKey) (report : List RejectedKey) :
    Prop where
  ascending : (report.map RejectedKey.index).Pairwise (· < ·)
  mem_iff : ∀ position reason, ⟨position, reason⟩ ∈ report ↔
    ∃ key, batch[position]? = some key ∧ reason.AppliesTo members (batch.take position) key

namespace IdentitySet

variable {tables : CensusTables} {members : List Bytes}

theorem admissible_iff (key : Bytes) :
    Admissible key ↔ key.length = 32 ∧ ¬(key.all (· = 0)) = true := by
  rw [all_zero_iff, Decidable.not_not]
  exact ⟨fun shape => ⟨shape.length_eq, shape.not_zero⟩, fun shape => ⟨shape.1, shape.2⟩⟩

theorem zero_key_iff (key : Bytes) :
    key = List.replicate 32 0 ↔ key.length = 32 ∧ (key.all (· = 0)) = true := by
  simp only [List.eq_replicate_iff, List.all_eq_true, decide_eq_true_eq]

theorem bytes_injective : Function.Injective PublicKey.bytes := by
  rintro ⟨left⟩ ⟨right⟩ same
  exact congrArg PublicKey.mk same

/-- The reason that is found for a key is the one that applies. -/
theorem rejection_eq_some_iff (known : ∀ key, isMember tables key = true ↔ key ∈ members)
    {before : List PublicKey} {key : PublicKey} {reason : Rejection} :
    rejection? tables (before.map PublicKey.bytes).reverse key = some reason ↔
      reason.AppliesTo members before key := by
  have met : (before.map PublicKey.bytes).reverse.contains key.bytes = true ↔ key ∈ before := by
    rw [List.contains_iff_mem, List.mem_reverse, List.mem_map_of_injective bytes_injective]
  have shape := admissible_iff key.bytes
  have zero := zero_key_iff key.bytes
  unfold rejection?
  by_cases length : key.bytes.length = PublicKey.memberLength
  · have exact : key.bytes.length = 32 := length
    rw [if_neg (not_not_intro length)]
    by_cases isZero : key.bytes.all (· = 0) = true
    · rw [if_pos isZero]
      simp only [exact, isZero, not_true_eq_false, and_false, and_self] at shape zero
      cases reason <;> simp [Rejection.AppliesTo, shape, zero, exact, -List.reduceReplicate]
    · rw [if_neg isZero]
      simp only [exact, isZero] at shape zero
      simp only [met, known]
      by_cases isMet : key ∈ before
      · rw [if_pos isMet]
        cases reason <;>
          simp [Rejection.AppliesTo, shape, zero, exact, isMet, -List.reduceReplicate]
      · rw [if_neg isMet]
        by_cases isOld : key.bytes ∈ members
        · rw [if_pos isOld]
          cases reason <;>
            simp [Rejection.AppliesTo, shape, zero, exact, isMet, isOld, -List.reduceReplicate]
        · rw [if_neg isOld]
          cases reason <;>
            simp [Rejection.AppliesTo, shape, zero, exact, isMet, isOld, -List.reduceReplicate]
  · have wrong : key.bytes.length ≠ 32 := length
    rw [if_pos length]
    simp only [wrong, false_and] at shape zero
    cases reason <;> simp [Rejection.AppliesTo, shape, zero, wrong, eq_comm, -List.reduceReplicate]

theorem rejections_ascending (tables : CensusTables) (seen : List Bytes) (start : Nat)
    (batch : List PublicKey) :
    ((rejections tables seen start batch).map RejectedKey.index).Pairwise (· < ·) := by
  induction batch generalizing seen start with
  | nil => exact .nil
  | cons key rest induction =>
      have others := induction (key.bytes :: seen) (start + 1)
      rw [rejections]
      cases rejection? tables seen key with
      | none => exact others
      | some reason =>
          rw [List.map_cons]
          apply List.Pairwise.cons _ others
          intro position listed
          obtain ⟨refused, member, isPosition⟩ := List.mem_map.mp listed
          obtain ⟨offset, -, isLater, -⟩ := mem_rejections_iff.mp member
          simp only at isLater ⊢
          omega

theorem rejections_reported (known : ∀ key, isMember tables key = true ↔ key ∈ members)
    (batch : List PublicKey) : Reported members batch (rejections tables [] 0 batch) where
  ascending := rejections_ascending tables [] 0 batch
  mem_iff position reason := by
    rw [mem_rejections_iff]
    simp only [Nat.zero_add, List.append_nil, rejection_eq_some_iff known]
    constructor
    · rintro ⟨offset, key, rfl, isKey, applies⟩
      exact ⟨key, isKey, applies⟩
    · rintro ⟨key, isKey, applies⟩
      exact ⟨position, key, rfl, isKey, applies⟩

end IdentitySet

end CensusNode
