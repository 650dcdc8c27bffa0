import CensusNode.Census.IdentitySet
import CensusNode.Proofs.Census.Tables

/-!
Which batches are admitted. A batch has no refused keys exactly when its keys have the length and
shape of members, are pairwise different, and are not members yet.
-/

namespace CensusNode.IdentitySet

/-- A key with the shape of a member: 32 bytes that are not all zero. -/
structure Admissible (key : Bytes) : Prop where
  length_eq : key.length = 32
  not_zero : ∃ byte ∈ key, byte ≠ 0

theorem is_member_iff (tables : CensusTables) (key : Bytes) :
    isMember tables key = true ↔ key ∈ tables.lookup.map Prod.fst := by
  rw [isMember, List.lookup_isSome_iff, List.mem_map]
  constructor
  · rintro ⟨entry, member, same⟩
    exact ⟨entry, member, (beq_iff_eq.mp same).symm⟩
  · rintro ⟨entry, member, same⟩
    exact ⟨entry, member, beq_iff_eq.mpr same.symm⟩

theorem all_zero_iff (key : Bytes) : (key.all (· = 0)) = true ↔ ¬∃ byte ∈ key, byte ≠ 0 := by
  simp

theorem rejection_eq_none_iff (tables : CensusTables) (seen : List Bytes) (key : PublicKey) :
    rejection? tables seen key = none ↔
      Admissible key.bytes ∧ key.bytes ∉ seen ∧ key.bytes ∉ tables.lookup.map Prod.fst := by
  rw [← is_member_iff]
  unfold rejection?
  constructor
  · intro accepted
    split at accepted
    · cases accepted
    · rename_i length
      split at accepted
      · cases accepted
      · rename_i shape
        split at accepted
        · cases accepted
        · rename_i unseen
          split at accepted
          · cases accepted
          · rename_i fresh
            rw [all_zero_iff, Decidable.not_not] at shape
            exact ⟨⟨Decidable.not_not.mp length, shape⟩, by simpa using unseen, fresh⟩
  · rintro ⟨⟨length, shape⟩, unseen, fresh⟩
    have fitting : ¬key.bytes.length ≠ PublicKey.memberLength := fun wrong => wrong length
    have shaped : ¬key.bytes.all (· = 0) = true := by
      rw [all_zero_iff]
      exact fun zero => zero shape
    have new : ¬seen.contains key.bytes = true := by simpa using unseen
    rw [if_neg fitting, if_neg shaped, if_neg new, if_neg fresh]

/-- The refused keys, each by its position and the reason why it is refused after the keys before
it. -/
theorem mem_rejections_iff {tables : CensusTables} {seen : List Bytes} {start position : Nat}
    {batch : List PublicKey} {reason : Rejection} :
    ⟨position, reason⟩ ∈ rejections tables seen start batch ↔
      ∃ offset key, position = start + offset ∧ batch[offset]? = some key ∧
        rejection? tables (((batch.take offset).map PublicKey.bytes).reverse ++ seen) key =
          some reason := by
  induction batch generalizing seen start with
  | nil => simp [rejections]
  | cons key rest induction =>
      have others : ⟨position, reason⟩ ∈ rejections tables (key.bytes :: seen) (start + 1) rest ↔
          ∃ offset other, position = start + (offset + 1) ∧
            (key :: rest)[offset + 1]? = some other ∧
            rejection? tables
              ((((key :: rest).take (offset + 1)).map PublicKey.bytes).reverse ++ seen) other =
                some reason := by
        rw [induction]
        simp only [Nat.add_assoc, Nat.add_comm 1, List.getElem?_cons_succ, List.take_succ_cons,
          List.map_cons, List.reverse_cons, List.append_assoc, List.singleton_append]
      have first : ⟨position, reason⟩ ∈ rejections tables seen start (key :: rest) ↔
          (position = start ∧ rejection? tables seen key = some reason) ∨
            ⟨position, reason⟩ ∈ rejections tables (key.bytes :: seen) (start + 1) rest := by
        rw [rejections]
        cases rejection? tables seen key <;> simp [eq_comm]
      rw [first, others]
      constructor
      · rintro (⟨isStart, isReason⟩ | ⟨offset, other, isPosition, isOther, isReason⟩)
        · exact ⟨0, key, isStart, rfl, isReason⟩
        · exact ⟨offset + 1, other, isPosition, isOther, isReason⟩
      · rintro ⟨offset, other, isPosition, isOther, isReason⟩
        cases offset with
        | zero =>
            cases isOther
            exact Or.inl ⟨isPosition, isReason⟩
        | succ offset => exact Or.inr ⟨offset, other, isPosition, isOther, isReason⟩

theorem mem_rejections {tables : CensusTables} {seen : List Bytes} {index : Nat}
    {batch : List PublicKey} {refused : RejectedKey}
    (member : refused ∈ rejections tables seen index batch) :
    refused.index < index + batch.length ∧
      ∃ key ∈ batch, ∃ before, rejection? tables before key = some refused.reason := by
  obtain ⟨offset, key, isPosition, isKey, isReason⟩ := mem_rejections_iff.mp member
  obtain ⟨below, -⟩ := List.getElem?_eq_some_iff.mp isKey
  exact ⟨by omega, key, List.mem_of_getElem? isKey, _, isReason⟩

theorem rejections_length_le (tables : CensusTables) (seen : List Bytes) (index : Nat)
    (batch : List PublicKey) : (rejections tables seen index batch).length ≤ batch.length := by
  induction batch generalizing seen index with
  | nil => exact Nat.le_refl 0
  | cons key rest induction =>
      have others := induction (key.bytes :: seen) (index + 1)
      rw [rejections, List.length_cons]
      split
      · rw [List.length_cons]
        omega
      · exact Nat.le_succ_of_le others

/-- No more keys are refused than a batch has, and the first of them is one of the batch. -/
theorem rejections_eq_cons {tables : CensusTables} {batch : List PublicKey} {first : RejectedKey}
    {rest : List RejectedKey} (refused : rejections tables [] 0 batch = first :: rest) :
    rest.length < batch.length ∧ first.index < batch.length ∧
      ∃ key ∈ batch, ∃ before, rejection? tables before key = some first.reason := by
  have few := rejections_length_le tables [] 0 batch
  have member : first ∈ rejections tables [] 0 batch := by
    rw [refused]
    exact List.mem_cons_self
  obtain ⟨below, reason⟩ := mem_rejections member
  rw [refused, List.length_cons] at few
  rw [Nat.zero_add] at below
  exact ⟨few, below, reason⟩

/-- A batch after the given keys is admitted exactly when each of its keys could become a member
and none of them is met again. -/
theorem rejections_eq_nil_iff (tables : CensusTables) (seen : List Bytes) (index : Nat)
    (batch : List PublicKey) :
    rejections tables seen index batch = [] ↔
      (∀ key ∈ batch.map PublicKey.bytes,
        Admissible key ∧ key ∉ seen ∧ key ∉ tables.lookup.map Prod.fst) ∧
      (batch.map PublicKey.bytes).Nodup := by
  induction batch generalizing seen index with
  | nil => simp [rejections]
  | cons key rest induction =>
      have later := induction (key.bytes :: seen) (index + 1)
      have here := rejection_eq_none_iff tables seen key
      simp only [rejections, List.map_cons, List.forall_mem_cons, List.nodup_cons]
      cases reason : rejection? tables seen key with
      | some refused =>
          rw [reason] at here
          constructor
          · intro accepted
            cases accepted
          · rintro ⟨⟨acceptable, -⟩, -⟩
            cases here.mpr acceptable
      | none =>
          simp only
          rw [later]
          constructor
          · rintro ⟨others, distinct⟩
            refine ⟨⟨here.mp reason, ?_⟩, ?_, distinct⟩
            · intro other member
              obtain ⟨shape, unseen, fresh⟩ := others other member
              exact ⟨shape, fun inSeen => unseen (List.mem_cons_of_mem _ inSeen), fresh⟩
            · intro member
              exact (others key.bytes member).2.1 List.mem_cons_self
          · rintro ⟨⟨-, others⟩, apart, distinct⟩
            refine ⟨?_, distinct⟩
            intro other member
            obtain ⟨shape, unseen, fresh⟩ := others other member
            refine ⟨shape, ?_, fresh⟩
            intro met
            rcases List.mem_cons.mp met with same | inSeen
            · rw [same] at member
              exact apart member
            · exact unseen inSeen

/-- What a batch does to an open set: it is refused and nothing changes, or all of it becomes
members. -/
theorem add_keys_cases {set after : IdentitySet} {batch : List PublicKey}
    {refused : List RejectedKey} (added : set.addKeys batch = .ok (refused, after)) :
    set.sealed = none ∧ refused = rejections set.tables [] 0 batch ∧
      (refused ≠ [] ∧ after = set ∨
        refused = [] ∧ after =
          { set with
            tables := set.tables.append set.tables.memberCount (batch.map PublicKey.bytes) }) := by
  unfold addKeys at added
  split at added
  · cases added
  · rename_i unsealed
    split at added
    · rename_i accepted
      rw [Except.ok.injEq, Prod.mk.injEq] at added
      exact ⟨unsealed, by rw [← added.1, accepted], Or.inr ⟨added.1.symm, added.2.symm⟩⟩
    · rename_i some_refused
      rw [Except.ok.injEq, Prod.mk.injEq] at added
      refine ⟨unsealed, added.1.symm, Or.inl ⟨?_, added.2.symm⟩⟩
      rw [← added.1]
      exact some_refused

end CensusNode.IdentitySet
