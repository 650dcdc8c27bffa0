import CensusNode.Proofs.Ledger.Rows
import CensusNode.Proofs.Time.Micros

/-!
The listing of a root and the windows of it. The rows of a root stand in strictly descending order
of insertion time and sequence number; what lies below a row of a window is what follows it there.
-/

namespace CensusNode

namespace VoteRow

def Above (row other : VoteRow) : Prop :=
  other.isBelow row.insertedAt row.insertionSeq = true

theorem is_below_iff (row : VoteRow) (insertedAt insertionSeq : Int) :
    row.isBelow insertedAt insertionSeq = true ↔
      row.insertedAt < insertedAt ∨
        (row.insertedAt = insertedAt ∧ row.insertionSeq < insertionSeq) := by
  simp [isBelow]

theorem precedes_iff (row other : VoteRow) :
    row.precedes other = true ↔
      other.insertedAt < row.insertedAt ∨
        (row.insertedAt = other.insertedAt ∧ other.insertionSeq ≤ row.insertionSeq) := by
  simp [precedes]

theorem precedes_trans (first second third : VoteRow) (earlier : first.precedes second = true)
    (later : second.precedes third = true) : first.precedes third = true := by
  rw [precedes_iff] at *
  omega

theorem precedes_total (row other : VoteRow) :
    (row.precedes other || other.precedes row) = true := by
  rw [Bool.or_eq_true, precedes_iff, precedes_iff]
  omega

theorem is_below_of_above {row other : VoteRow} {insertedAt insertionSeq : Int}
    (above : row.Above other) (below : row.isBelow insertedAt insertionSeq = true) :
    other.isBelow insertedAt insertionSeq = true := by
  rw [Above, is_below_iff] at above
  rw [is_below_iff] at *
  omega

theorem Above.trans {first second third : VoteRow} (earlier : first.Above second)
    (later : second.Above third) : first.Above third :=
  is_below_of_above later earlier

theorem Above.not_below {row other : VoteRow} (above : row.Above other) :
    row.isBelow other.insertedAt other.insertionSeq = false := by
  rw [Above, is_below_iff] at above
  rw [← Bool.not_eq_true, is_below_iff]
  omega

theorem not_below_self (row : VoteRow) : row.isBelow row.insertedAt row.insertionSeq = false := by
  rw [← Bool.not_eq_true, is_below_iff]
  omega

end VoteRow

namespace VoteRows

open VoteRow

def window (rows : List VoteRow) (root : CensusRoot) (insertedAt insertionSeq : Int) :
    List VoteRow :=
  (listing rows root).filter fun row => row.isBelow insertedAt insertionSeq

theorem mem_listing_iff {rows : List VoteRow} {root : CensusRoot} {row : VoteRow} :
    row ∈ listing rows root ↔ row ∈ rows ∧ row.root = root.bytes := by
  rw [listing, List.mem_mergeSort, List.mem_filter, decide_eq_true_eq]

theorem mem_window_iff {rows : List VoteRow} {root : CensusRoot} {insertedAt insertionSeq : Int}
    {row : VoteRow} :
    row ∈ window rows root insertedAt insertionSeq ↔
      (row ∈ rows ∧ row.root = root.bytes) ∧ row.isBelow insertedAt insertionSeq = true := by
  rw [window, List.mem_filter, mem_listing_iff]

theorem Sound.seqs_nodup {rows : List VoteRow} (sound : Sound rows) :
    (rows.map VoteRow.insertionSeq).Nodup := by
  rw [sound.seqs]
  refine List.Pairwise.map _ ?_ List.nodup_range
  intro place other apart
  omega

/-- No two rows of a listing share a sequence number, so that the order is strict. -/
theorem Sound.listing_pairwise {rows : List VoteRow} (sound : Sound rows) (root : CensusRoot) :
    (listing rows root).Pairwise Above := by
  have sorted : (listing rows root).Pairwise fun row other => row.precedes other = true :=
    List.pairwise_mergeSort precedes_trans precedes_total _
  have single : ((listing rows root).map VoteRow.insertionSeq).Nodup := by
    have perm := List.mergeSort_perm (rows.filter fun row => row.root = root.bytes) precedes
    rw [listing, (perm.map _).nodup_iff]
    exact sound.seqs_nodup.sublist ((List.filter_sublist).map _)
  have distinct := List.pairwise_map.mp single
  apply (sorted.and distinct).imp
  intro row other both
  obtain ⟨ordered, apart⟩ := both
  rw [precedes_iff] at ordered
  rw [Above, is_below_iff]
  omega

theorem Sound.window_pairwise {rows : List VoteRow} (sound : Sound rows) (root : CensusRoot)
    (insertedAt insertionSeq : Int) :
    (window rows root insertedAt insertionSeq).Pairwise Above :=
  (sound.listing_pairwise root).sublist List.filter_sublist

/-- Below a row of a window is what follows that row. -/
theorem Sound.window_after {rows : List VoteRow} (sound : Sound rows) {root : CensusRoot}
    {insertedAt insertionSeq : Int} {front rest : List VoteRow} {row : VoteRow}
    (split : window rows root insertedAt insertionSeq = front ++ row :: rest) :
    window rows root row.insertedAt row.insertionSeq = rest := by
  have member : row ∈ window rows root insertedAt insertionSeq := by
    rw [split]
    exact List.mem_append_right front List.mem_cons_self
  have below := (mem_window_iff.mp member).2
  have narrowed : window rows root row.insertedAt row.insertionSeq =
      (window rows root insertedAt insertionSeq).filter fun other =>
        other.isBelow row.insertedAt row.insertionSeq := by
    rw [window, window, List.filter_filter]
    apply List.filter_congr
    intro other _
    cases isAfter : other.isBelow row.insertedAt row.insertionSeq with
    | false => rfl
    | true => rw [is_below_of_above isAfter below]; rfl
  have ordered := sound.window_pairwise root insertedAt insertionSeq
  rw [split, List.pairwise_append, List.pairwise_cons] at ordered
  obtain ⟨-, ⟨later, -⟩, earlier⟩ := ordered
  have noneBefore :
      front.filter (fun other => other.isBelow row.insertedAt row.insertionSeq) = [] := by
    rw [List.filter_eq_nil_iff]
    intro other isBefore
    rw [(earlier other isBefore row List.mem_cons_self).not_below]
    decide
  have allAfter : rest.filter (fun other => other.isBelow row.insertedAt row.insertionSeq) = rest :=
    List.filter_eq_self.mpr later
  rw [narrowed, split, List.filter_append, noneBefore, List.nil_append,
    List.filter_cons_of_neg (by rw [not_below_self]; decide), allAfter]

theorem Sound.window_top {rows : List VoteRow} (sound : Sound rows) (root : CensusRoot) :
    window rows root maxRowInteger maxRowInteger = listing rows root := by
  apply List.filter_eq_self.mpr
  intro row member
  obtain ⟨root, package, now, -, written⟩ := sound.written row (mem_listing_iff.mp member).1
  have bounds := now.micros_bounds
  have reading : row.insertedAt = now.micros := by rw [written]; rfl
  rw [is_below_iff]
  unfold Instant.latestMicros at bounds
  unfold maxRowInteger
  omega

/-- A written row is read as the package it was written for, unless its time is beyond the last
instant. -/
theorem stored_row_of (root : CensusRoot) (package : VotePackage) (now : Instant) (seq : Int) :
    (rowOf root package now seq).stored =
      match Instant.ofMicros? now.micros with
      | none => .error (.corruptRow (.timestampRange now.micros))
      | some insertedAt => .ok ⟨root, package, insertedAt⟩ := by
  have positive : ¬((package.index.toNat : Int) < 0) := by omega
  cases found : Instant.ofMicros? now.micros <;>
    simp only [VoteRow.stored, rowOf, CensusRoot.bytes, Block.of_bytes_bytes, if_neg positive,
      Int.toNat_natCast, UInt64.ofNat_toNat, found]

theorem get_of_stored {rows after : List VoteRow} {root : CensusRoot} {package : VotePackage}
    {now : Instant} (stored : store rows root package now = .ok after)
    (room : nextSeq rows ≤ maxRowInteger) (inTime : now.micros ≤ Instant.latestMicros) :
    ∃ insertedAt, get after package.index = .ok ⟨root, package, insertedAt⟩ := by
  obtain ⟨-, fresh, isAfter⟩ := store_ok stored
  rw [refusal_eq_none_iff] at fresh
  obtain ⟨insertedAt, isInstant⟩ := Instant.of_micros_is_some now.micros_bounds.1 inTime
  have isFound : after.find? (fun row => row.index = (package.index.toNat : Int)) =
      some (rowOf root package now (nextSeq rows)) := by
    have absent : rows.find? (fun row => row.index = (package.index.toNat : Int)) = none := by
      rw [List.find?_eq_none]
      intro row member
      simpa using (fresh row member).1
    rw [isAfter, List.find?_append, absent, Option.none_or]
    exact List.find?_cons_of_pos (decide_eq_true rfl)
  have isReadable : readable [rowOf root package now (nextSeq rows)] =
      .ok [rowOf root package now (nextSeq rows)] := by
    rw [readable, if_pos]
    simpa [VoteRow.hasIntegerSeq, rowOf] using room
  refine ⟨insertedAt, ?_⟩
  simp only [get, isFound, isReadable]
  change VoteRow.stored _ = _
  rw [stored_row_of, isInstant]

theorem IsWritten.stored_index {row : VoteRow} (written : IsWritten row)
    {stored : StoredVotePackage} (found : row.stored = .ok stored) :
    (stored.package.index.toNat : Int) = row.index := by
  obtain ⟨root, package, now, -, same⟩ := written
  rw [same, stored_row_of] at found
  split at found
  · cases found
  · rw [← Except.ok.inj found, same]
    rfl

theorem stored_all_cons_iff {row : VoteRow} {rest : List VoteRow}
    {packages : List StoredVotePackage} :
    storedAll (row :: rest) = .ok packages ↔
      ∃ first others, row.stored = .ok first ∧ storedAll rest = .ok others ∧
        packages = first :: others := by
  simp only [storedAll]
  cases row.stored with
  | error error => simp
  | ok first =>
      cases storedAll rest with
      | error error => simp
      | ok others => simp [eq_comm]

theorem stored_all_append_iff {rows others : List VoteRow} {packages : List StoredVotePackage} :
    storedAll (rows ++ others) = .ok packages ↔
      ∃ first second, storedAll rows = .ok first ∧ storedAll others = .ok second ∧
        packages = first ++ second := by
  induction rows generalizing packages with
  | nil => simp [storedAll, eq_comm]
  | cons row rest induction =>
      simp only [List.cons_append, stored_all_cons_iff, induction]
      constructor
      · rintro ⟨head, tail, isHead, ⟨first, second, isFirst, isSecond, joined⟩, same⟩
        exact ⟨head :: first, second, ⟨head, first, isHead, isFirst, rfl⟩, isSecond, by
          rw [same, joined, List.cons_append]⟩
      · rintro ⟨first, second, ⟨head, tail, isHead, isTail, split⟩, isSecond, same⟩
        exact ⟨head, tail ++ second, isHead, ⟨tail, second, isTail, isSecond, rfl⟩, by
          rw [same, split, List.cons_append]⟩

theorem stored_all_indices {rows : List VoteRow} {packages : List StoredVotePackage}
    (written : ∀ row ∈ rows, IsWritten row) (found : storedAll rows = .ok packages) :
    packages.map (fun stored => (stored.package.index.toNat : Int)) = rows.map VoteRow.index := by
  induction rows generalizing packages with
  | nil =>
      cases found
      rfl
  | cons row rest induction =>
      obtain ⟨first, others, isFirst, areOthers, same⟩ := stored_all_cons_iff.mp found
      rw [same, List.map_cons, List.map_cons,
        (written row List.mem_cons_self).stored_index isFirst,
        induction (fun other member => written other (List.mem_cons_of_mem _ member)) areOthers]

theorem stored_all_mem {rows : List VoteRow} {packages : List StoredVotePackage}
    (found : storedAll rows = .ok packages) {row : VoteRow} (member : row ∈ rows) :
    ∃ stored ∈ packages, row.stored = .ok stored := by
  induction rows generalizing packages with
  | nil => cases member
  | cons first rest induction =>
      obtain ⟨head, others, isHead, areOthers, same⟩ := stored_all_cons_iff.mp found
      rw [same]
      rcases List.mem_cons.mp member with isFirst | later
      · rw [isFirst]
        exact ⟨head, List.mem_cons_self, isHead⟩
      · obtain ⟨stored, inOthers, isStored⟩ := induction areOthers later
        exact ⟨stored, List.mem_cons_of_mem _ inOthers, isStored⟩

theorem readable_eq_ok_iff {rows found : List VoteRow} :
    readable rows = .ok found ↔ (∀ row ∈ rows, row.hasIntegerSeq = true) ∧ found = rows := by
  unfold readable
  split
  · rename_i integers
    rw [List.all_eq_true] at integers
    constructor
    · intro same
      exact ⟨integers, (Except.ok.inj same).symm⟩
    · rintro ⟨-, same⟩
      rw [same]
  · rename_i integers
    rw [List.all_eq_true] at integers
    constructor
    · intro same
      cases same
    · rintro ⟨allIntegers, -⟩
      exact absurd allIntegers integers

end VoteRows

end CensusNode
