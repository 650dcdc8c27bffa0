import CensusNode.Ledger.Rows

/-!
The rows that submissions leave behind. However many submissions are made, under whatever roots and
clock readings, accepted or refused, the rows are numbered from one on in the order of the accepted
ones, no two rows agree in index, public key or Merkle proof, and each row is that of a package.
-/

namespace CensusNode

/-- A package submitted under a root, with the reading of the clock at that time. -/
structure Submission where
  root : CensusRoot
  package : VotePackage
  now : Instant
deriving DecidableEq

namespace VoteRows

def submit (rows : List VoteRow) (submission : Submission) : List VoteRow :=
  match store rows submission.root submission.package submission.now with
  | .ok rows => rows
  | .error _ => rows

def submitAll (rows : List VoteRow) (submissions : List Submission) : List VoteRow :=
  submissions.foldl submit rows

/-- Rows that agree in none of the columns whose values are unique. -/
def Apart (row other : VoteRow) : Prop :=
  row.index ≠ other.index ∧ row.publicKey ≠ other.publicKey ∧ row.merkleProof ≠ other.merkleProof

/-- The row is that of a package with an index the database can hold. -/
def IsWritten (row : VoteRow) : Prop :=
  ∃ root package now, isStorable package = true ∧ row = rowOf root package now row.insertionSeq

structure Sound (rows : List VoteRow) : Prop where
  few : rows.length ≤ maxRowInteger + 1
  seqs : rows.map VoteRow.insertionSeq =
    (List.range rows.length).map fun place : Nat => (place : Int) + 1
  largest : largestSeq rows = rows.length
  written : ∀ row ∈ rows, IsWritten row
  apart : rows.Pairwise Apart

theorem sound_nil : Sound [] where
  few := Nat.zero_le _
  seqs := rfl
  largest := rfl
  written := by simp
  apart := List.Pairwise.nil

theorem store_ok {rows after : List VoteRow} {root : CensusRoot} {package : VotePackage}
    {now : Instant} (stored : store rows root package now = .ok after) :
    isStorable package = true ∧ refusal? rows package (nextSeq rows) = none ∧
      after = rows ++ [rowOf root package now (nextSeq rows)] := by
  unfold store at stored
  split at stored
  · cases stored
  · rename_i storable
    simp only at stored
    split at stored
    · cases stored
    · rename_i accepted
      rw [Bool.not_eq_true', Bool.not_eq_false] at storable
      exact ⟨storable, accepted, (Except.ok.inj stored).symm⟩

/-- A package that is not refused agrees with no row in a unique column. -/
theorem refusal_eq_none_iff (rows : List VoteRow) (package : VotePackage) (insertionSeq : Int) :
    refusal? rows package insertionSeq = none ↔
      ∀ row ∈ rows, row.index ≠ (package.index.toNat : Int) ∧ row.insertionSeq ≠ insertionSeq ∧
        row.merkleProof ≠ package.merkleProof ∧ row.publicKey ≠ package.publicKey := by
  unfold refusal?
  constructor
  · intro accepted
    split at accepted
    · cases accepted
    · rename_i index
      split at accepted
      · cases accepted
      · rename_i seq
        split at accepted
        · cases accepted
        · rename_i proof
          split at accepted
          · cases accepted
          · rename_i key
            simp only [List.any_eq_true, decide_eq_true_eq, not_exists, not_and]
              at index seq proof key
            intro row member
            exact ⟨index row member, seq row member, proof row member, key row member⟩
  · intro fresh
    rw [if_neg, if_neg, if_neg, if_neg]
    · simpa using fun row member => (fresh row member).2.2.2
    · simpa using fun row member => (fresh row member).2.2.1
    · simpa using fun row member => (fresh row member).2.1
    · simpa using fun row member => (fresh row member).1

theorem largest_seq_append (rows : List VoteRow) {row : VoteRow} (positive : 0 ≤ row.insertionSeq) :
    largestSeq (rows ++ [row]) = max (largestSeq rows) row.insertionSeq := by
  cases rows with
  | nil => exact (Int.max_eq_right positive).symm
  | cons first rest =>
      rw [List.cons_append, largestSeq, List.foldl_append]
      rfl

theorem Sound.seq_mem {rows : List VoteRow} (sound : Sound rows) {seq : Int} :
    seq ∈ rows.map VoteRow.insertionSeq ↔ 1 ≤ seq ∧ seq ≤ rows.length := by
  rw [sound.seqs, List.mem_map]
  constructor
  · rintro ⟨place, member, same⟩
    rw [List.mem_range] at member
    omega
  · intro bounds
    exact ⟨(seq - 1).toNat, by rw [List.mem_range]; omega, by omega⟩

/-- The number of an accepted row is the one after that of the last row. A ledger in which it would
no longer be an integer accepts nothing. -/
theorem Sound.next_seq {rows : List VoteRow} (sound : Sound rows) {package : VotePackage}
    (accepted : refusal? rows package (nextSeq rows) = none) :
    rows.length ≤ maxRowInteger ∧ nextSeq rows = rows.length + 1 := by
  have next : nextSeq rows =
      if (maxRowInteger : Int) < rows.length then (rows.length : Int) else rows.length + 1 := by
    rw [nextSeq, sound.largest]
  by_cases full : (maxRowInteger : Int) < rows.length
  · rw [if_pos full] at next
    rw [next, refusal_eq_none_iff] at accepted
    have taken : (rows.length : Int) ∈ rows.map VoteRow.insertionSeq :=
      sound.seq_mem.mpr ⟨by omega, by omega⟩
    rw [List.mem_map] at taken
    obtain ⟨row, member, same⟩ := taken
    exact absurd same (accepted row member).2.1
  · rw [if_neg full] at next
    exact ⟨by omega, next⟩

theorem Sound.append {rows : List VoteRow} (sound : Sound rows) (root : CensusRoot)
    {package : VotePackage} (now : Instant) (storable : isStorable package = true)
    (accepted : refusal? rows package (nextSeq rows) = none) :
    Sound (rows ++ [rowOf root package now (nextSeq rows)]) := by
  obtain ⟨room, next⟩ := sound.next_seq accepted
  rw [refusal_eq_none_iff] at accepted
  have seq : (rowOf root package now (nextSeq rows)).insertionSeq = rows.length + 1 := next
  constructor
  · rw [List.length_append, List.length_singleton]
    omega
  · rw [List.map_append, sound.seqs, List.length_append, List.length_singleton, List.range_succ,
      List.map_append, List.map_singleton, List.map_singleton, seq]
  · rw [largest_seq_append rows (by rw [seq]; omega), sound.largest, seq, List.length_append,
      List.length_singleton]
    omega
  · intro row member
    rcases List.mem_append.mp member with old | new
    · exact sound.written row old
    · rw [List.mem_singleton] at new
      exact ⟨root, package, now, storable, by rw [new]; rfl⟩
  · rw [List.pairwise_append]
    refine ⟨sound.apart, List.pairwise_singleton _ _, ?_⟩
    intro row member other isNew
    rw [List.mem_singleton] at isNew
    rw [isNew]
    obtain ⟨index, -, proof, key⟩ := accepted row member
    exact ⟨index, key, proof⟩

theorem Sound.submit {rows : List VoteRow} (sound : Sound rows) (submission : Submission) :
    Sound (submit rows submission) := by
  unfold VoteRows.submit
  split
  · rename_i after stored
    obtain ⟨storable, accepted, grown⟩ := store_ok stored
    rw [grown]
    exact sound.append _ _ storable accepted
  · exact sound

theorem Sound.submit_all {rows : List VoteRow} (sound : Sound rows)
    (submissions : List Submission) : Sound (submitAll rows submissions) := by
  induction submissions generalizing rows with
  | nil => exact sound
  | cons submission rest induction => exact induction (sound.submit submission)

theorem submit_extends (rows : List VoteRow) (submission : Submission) :
    rows <+: submit rows submission := by
  unfold VoteRows.submit
  split
  · rename_i after stored
    rw [(store_ok stored).2.2]
    exact List.prefix_append _ _
  · exact List.prefix_refl rows

theorem submit_all_extends (rows : List VoteRow) (submissions : List Submission) :
    rows <+: submitAll rows submissions := by
  induction submissions generalizing rows with
  | nil => exact List.prefix_refl rows
  | cons submission rest induction =>
      exact (submit_extends rows submission).trans (induction _)

end VoteRows

end CensusNode
