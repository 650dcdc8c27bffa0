import CensusNode.Proofs.Census.Enrolment
import Mathlib.Data.Finset.Dedup
import Mathlib.Data.Nat.Find

/-!
Batches without their refused keys. When some of the refused keys are dropped from a batch, what is
left is admitted exactly when all of them are dropped. Dropping a key may change why another one is
refused, as a different occurrence becomes the first; but the first occurrence in the whole batch is
refused for nothing but its shape or for a member, and then so are all others.
-/

namespace CensusNode

open IdentitySet (Admissible rejections)

def without (dropped : Finset Nat) (batch : List PublicKey) : List PublicKey :=
  (batch.zipIdx.filter fun entry => entry.2 ∉ dropped).map Prod.fst

variable {dropped : Finset Nat} {batch : List PublicKey} {members : List Bytes}
  {report : List RejectedKey} {key : PublicKey} {position : Nat}

theorem mem_without_iff :
    key ∈ without dropped batch ↔ ∃ position, position ∉ dropped ∧ batch[position]? = some key := by
  simp only [without, List.mem_map, List.mem_filter, decide_eq_true_eq, Prod.exists,
    List.mem_zipIdx_iff_getElem?, exists_and_right, exists_eq_right]
  simp only [and_comm]

theorem nodup_without_iff :
    (without dropped batch).Nodup ↔ ∀ earlier later key, earlier < later → earlier ∉ dropped →
      later ∉ dropped → batch[earlier]? = some key → batch[later]? ≠ some key := by
  rw [without, List.Nodup, List.pairwise_map, List.pairwise_filter, List.pairwise_iff_getElem]
  simp only [List.getElem_zipIdx, List.length_zipIdx, decide_eq_true_eq, Nat.zero_add]
  constructor
  · intro distinct earlier later key before keptEarlier keptLater isEarlier isLater
    obtain ⟨below, first⟩ := List.getElem?_eq_some_iff.mp isEarlier
    obtain ⟨above, second⟩ := List.getElem?_eq_some_iff.mp isLater
    have same : batch[earlier] = batch[later] := first.trans second.symm
    exact distinct earlier later below above before keptEarlier keptLater same
  · intro distinct earlier later below above before keptEarlier keptLater same
    apply distinct earlier later batch[earlier] before keptEarlier keptLater
    · exact List.getElem?_eq_getElem below
    · rw [same]
      exact List.getElem?_eq_getElem above

theorem mem_take_iff :
    key ∈ batch.take position ↔ ∃ earlier, earlier < position ∧ batch[earlier]? = some key := by
  simp only [List.mem_iff_getElem?, List.getElem?_take]
  constructor
  · rintro ⟨earlier, found⟩
    split at found
    · rename_i before
      exact ⟨earlier, before, found⟩
    · cases found
  · rintro ⟨earlier, before, found⟩
    exact ⟨earlier, by rw [if_pos before, found]⟩

theorem exists_first (isKey : batch[position]? = some key) :
    ∃ first, first ≤ position ∧ batch[first]? = some key ∧ key ∉ batch.take first := by
  have occurs : ∃ first, batch[first]? = some key := ⟨position, isKey⟩
  refine ⟨Nat.find occurs, Nat.find_min' occurs isKey, Nat.find_spec occurs, ?_⟩
  intro met
  obtain ⟨earlier, before, isEarlier⟩ := mem_take_iff.mp met
  exact Nat.find_min occurs before isEarlier

/-- A key with none of the reasons has the shape of a member and is met for the first time. -/
theorem Rejection.exists_applies_iff {before : List PublicKey} :
    (∃ reason : Rejection, reason.AppliesTo members before key) ↔
      ¬(Admissible key.bytes ∧ key ∉ before ∧ key.bytes ∉ members) := by
  constructor
  · rintro ⟨reason, applies⟩ ⟨shape, unmet, fresh⟩
    cases reason with
    | wrongLength length => exact applies.2 shape.length_eq
    | identityPoint =>
        have zero := (IdentitySet.zero_key_iff _).mp applies
        exact ((IdentitySet.admissible_iff _).mp shape).2 zero.2
    | duplicateInBatch => exact unmet applies.2
    | duplicateInCensus => exact fresh applies.2.2
  · intro refused
    by_cases shape : Admissible key.bytes
    · by_cases met : key ∈ before
      · exact ⟨.duplicateInBatch, shape, met⟩
      · have old : key.bytes ∈ members := by
          by_contra fresh
          exact refused ⟨shape, met, fresh⟩
        exact ⟨.duplicateInCensus, shape, met, old⟩
    · rw [IdentitySet.admissible_iff, not_and_or, not_not] at shape
      by_cases length : key.bytes.length = 32
      · have zero := shape.resolve_left (not_not_intro length)
        exact ⟨.identityPoint, (IdentitySet.zero_key_iff _).mpr ⟨length, zero⟩⟩
      · exact ⟨.wrongLength key.bytes.length, rfl, length⟩

namespace Reported

def positions (report : List RejectedKey) : Finset Nat := (report.map RejectedKey.index).toFinset

theorem mem_positions_iff (reported : Reported members batch report) :
    position ∈ positions report ↔ ∃ key, batch[position]? = some key ∧
      ¬(Admissible key.bytes ∧ key ∉ batch.take position ∧ key.bytes ∉ members) := by
  have named : position ∈ positions report ↔ ∃ reason, ⟨position, reason⟩ ∈ report := by
    rw [positions, List.mem_toFinset, List.mem_map]
    constructor
    · rintro ⟨⟨index, reason⟩, member, rfl⟩
      exact ⟨reason, member⟩
    · rintro ⟨reason, member⟩
      exact ⟨⟨position, reason⟩, member, rfl⟩
  simp only [named, reported.mem_iff, ← Rejection.exists_applies_iff]
  constructor
  · rintro ⟨reason, key, isKey, applies⟩
    exact ⟨key, isKey, reason, applies⟩
  · rintro ⟨key, isKey, reason, applies⟩
    exact ⟨reason, key, isKey, applies⟩

/-- An unreported key is the first of its kind, so that no key is left twice. -/
theorem fit_of_dropped (reported : Reported members batch report)
    (all : positions report ⊆ dropped) :
    (∀ key ∈ without dropped batch, Admissible key.bytes ∧ key.bytes ∉ members) ∧
      (without dropped batch).Nodup := by
  have clean {position : Nat} {key : PublicKey} (kept : position ∉ dropped)
      (isKey : batch[position]? = some key) :
      Admissible key.bytes ∧ key ∉ batch.take position ∧ key.bytes ∉ members := by
    by_contra refused
    exact kept (all (reported.mem_positions_iff.mpr ⟨key, isKey, refused⟩))
  constructor
  · intro key left
    obtain ⟨position, kept, isKey⟩ := mem_without_iff.mp left
    exact ⟨(clean kept isKey).1, (clean kept isKey).2.2⟩
  · rw [nodup_without_iff]
    intro earlier later key before _ keptLater isEarlier isLater
    exact (clean keptLater isLater).2.1 (mem_take_iff.mpr ⟨earlier, before, isEarlier⟩)

/-- A reported key that is left shows its fault again, or that of the first key equal to it, which was
not reported and is left as well. -/
theorem dropped_of_fit (reported : Reported members batch report)
    (within : dropped ⊆ positions report)
    (fit : ∀ key ∈ without dropped batch, Admissible key.bytes ∧ key.bytes ∉ members)
    (distinct : (without dropped batch).Nodup) : positions report ⊆ dropped := by
  intro position isReported
  by_contra kept
  obtain ⟨key, isKey, refused⟩ := reported.mem_positions_iff.mp isReported
  obtain ⟨shape, fresh⟩ := fit key (mem_without_iff.mpr ⟨position, kept, isKey⟩)
  obtain ⟨first, notAfter, isFirst, unmet⟩ := exists_first isKey
  have keptFirst : first ∉ dropped := by
    intro isDropped
    obtain ⟨other, isOther, faulty⟩ := reported.mem_positions_iff.mp (within isDropped)
    rw [isFirst, Option.some.injEq] at isOther
    rw [← isOther] at faulty
    exact faulty ⟨shape, unmet, fresh⟩
  have before : first < position := by
    apply Nat.lt_of_le_of_ne notAfter
    intro same
    rw [same] at unmet
    exact refused ⟨shape, unmet, fresh⟩
  exact nodup_without_iff.mp distinct first position key before keptFirst kept isFirst isKey

end Reported

theorem CensusTables.Enrolled.accepts_without_iff {tables : CensusTables}
    (enrolled : tables.Enrolled members)
    (within : dropped ⊆ Reported.positions (rejections tables [] 0 batch)) :
    rejections tables [] 0 (without dropped batch) = [] ↔
      dropped = Reported.positions (rejections tables [] 0 batch) := by
  have reported := enrolled.reported batch
  have injective := IdentitySet.bytes_injective
  rw [enrolled.accepts_iff, List.nodup_append, List.nodup_map_iff injective]
  constructor
  · rintro ⟨admissible, -, distinct, apart⟩
    apply Finset.Subset.antisymm within
    apply reported.dropped_of_fit within _ distinct
    intro key left
    have isBytes : key.bytes ∈ (without dropped batch).map PublicKey.bytes :=
      List.mem_map_of_mem left
    exact ⟨admissible _ isBytes, fun old => apart _ old _ isBytes rfl⟩
  · intro all
    obtain ⟨fit, distinct⟩ := reported.fit_of_dropped (Finset.subset_of_eq all.symm)
    refine ⟨?_, enrolled.distinct, distinct, ?_⟩
    · intro bytes isBytes
      obtain ⟨key, left, rfl⟩ := List.mem_map.mp isBytes
      exact (fit key left).1
    · intro member old bytes isBytes same
      obtain ⟨key, left, rfl⟩ := List.mem_map.mp isBytes
      rw [same] at old
      exact (fit key left).2 old

end CensusNode
