import CensusNode.Proofs.Ledger.Cursor
import CensusNode.Proofs.Ledger.Listing

/-!
One page. A page is the beginning of a window of the listing. Either it reaches the end of the
window and has no cursor, or it is as long as asked for, more rows follow, and its cursor stands for
the position of its last row, so that the next window is what follows that row.
-/

namespace CensusNode

namespace LedgerConfig

variable {config : LedgerConfig}

theorem page_sizes_of_valid (valid : config.validate = .ok ()) :
    0 < config.defaultPageSize ∧ config.defaultPageSize ≤ config.maxPageSize ∧
      config.maxPageSize ≤ pageSizeLimit := by
  unfold validate at valid
  split at valid
  · cases valid
  · split at valid
    · cases valid
    · split at valid
      · cases valid
      · omega

/-- A valid configuration asks for at least one row, whatever the limit. -/
theorem clamp_page_size_pos (valid : config.validate = .ok ()) (limit : Nat) :
    0 < config.clampPageSize limit := by
  obtain ⟨positive, ordered, -⟩ := page_sizes_of_valid valid
  unfold clampPageSize
  split <;> omega

theorem clamp_page_size_le (valid : config.validate = .ok ()) (limit : Nat) :
    config.clampPageSize limit ≤ config.maxPageSize := by
  unfold clampPageSize
  split
  · exact (page_sizes_of_valid valid).2.1
  · exact Nat.min_le_right _ _

end LedgerConfig

namespace VoteRows

def Integers (rows : List VoteRow) : Prop := ∀ row ∈ rows, row.hasIntegerSeq = true

theorem page_eq_ok_iff {config : LedgerConfig} {rows : List VoteRow} {root : CensusRoot}
    {cursor : Option String} {limit : Nat} {start : Int × Int}
    (started : startOf root cursor = .ok start) {result : VotePage} :
    page config rows root cursor limit = .ok result ↔
      Integers ((window rows root start.1 start.2).take (config.clampPageSize limit + 1)) ∧
      storedAll ((window rows root start.1 start.2).take (config.clampPageSize limit)) =
        .ok result.packages ∧
      result.nextCursor =
        if config.clampPageSize limit < (window rows root start.1 start.2).length then
          ((window rows root start.1 start.2).take (config.clampPageSize limit)).getLast?.map
            (cursorAfter root)
        else none := by
  have shown (below : List VoteRow) (size : Nat) :
      (below.take (size + 1)).take size = below.take size := by
    rw [List.take_take, Nat.min_eq_left (Nat.le_succ size)]
  have more (below : List VoteRow) (size : Nat) :
      size < (below.take (size + 1)).length ↔ size < below.length := by
    rw [List.length_take]
    omega
  have isWindow : ((listing rows root).filter fun row => row.isBelow start.1 start.2) =
      window rows root start.1 start.2 := rfl
  simp only [page, started, bind, Except.bind]
  rw [isWindow]
  generalize window rows root start.1 start.2 = below
  generalize config.clampPageSize limit = size
  cases reads : readable (below.take (size + 1)) with
  | error error =>
      constructor
      · intro same
        cases same
      · rintro ⟨integers, -⟩
        rw [readable_eq_ok_iff.mpr ⟨integers, rfl⟩] at reads
        cases reads
  | ok fetched =>
      obtain ⟨integers, same⟩ := readable_eq_ok_iff.mp reads
      simp only [same, shown, more]
      cases storedAll (below.take size) with
      | error error => simp
      | ok packages =>
          obtain ⟨resultPackages, resultCursor⟩ := result
          simp only [Except.ok.injEq, VotePage.mk.injEq]
          constructor
          · rintro ⟨samePackages, sameCursor⟩
            exact ⟨integers, samePackages, sameCursor.symm⟩
          · rintro ⟨-, samePackages, sameCursor⟩
            exact ⟨samePackages, sameCursor.symm⟩

theorem Sound.start_of_cursor_after {rows : List VoteRow} (sound : Sound rows) (root : CensusRoot)
    {row : VoteRow} (member : row ∈ rows) (integer : row.hasIntegerSeq = true) :
    startOf root (some (cursorAfter root row)) = .ok (row.insertedAt, row.insertionSeq) := by
  obtain ⟨_, _, now, -, written⟩ := sound.written row member
  have reading : row.insertedAt = now.micros := by rw [written]; rfl
  have bounds := now.micros_bounds
  have positive := (sound.seq_mem.mp (List.mem_map_of_mem member)).1
  simp only [VoteRow.hasIntegerSeq, decide_eq_true_eq] at integer
  unfold Instant.latestMicros at bounds
  unfold maxRowInteger at integer
  have time : (Int64.ofInt row.insertedAt).toInt = row.insertedAt :=
    Int64.toInt_ofInt_of_le (by omega) (by omega)
  have seq : (Int64.ofInt row.insertionSeq).toInt = row.insertionSeq :=
    Int64.toInt_ofInt_of_le (by omega) (by omega)
  simp only [startOf, cursorAfter, PageCursor.decode_encode_after]
  simp only [PageCursor.after, time, seq]

theorem exists_last_shown {α : Type} {rows : List α} {size : Nat} (positive : 0 < size)
    (more : size < rows.length) :
    ∃ front row rest, rows = front ++ row :: rest ∧ rest ≠ [] ∧ front.length + 1 = size ∧
      rows.take size = front ++ [row] ∧ (rows.take size).getLast? = some row := by
  obtain ⟨last, isLast⟩ := Nat.exists_eq_add_one.mpr positive
  rw [isLast] at more ⊢
  have index : last < rows.length := by omega
  have taken : rows.take (last + 1) = rows.take last ++ [rows[last]] :=
    List.take_succ_eq_append_getElem index
  refine ⟨rows.take last, rows[last], rows.drop (last + 1), ?_, ?_, ?_, taken, ?_⟩
  · rw [← List.drop_eq_getElem_cons index, List.take_append_drop]
  · rw [ne_eq, List.drop_eq_nil_iff]
    omega
  · rw [List.length_take]
    omega
  · rw [taken, List.getLast?_concat]

/-- A page ends its window, or more rows follow its last row and its cursor stands there. -/
theorem Sound.page_cases {config : LedgerConfig} (valid : config.validate = .ok ())
    {rows : List VoteRow} (sound : Sound rows) {root : CensusRoot} {cursor : Option String}
    {start : Int × Int} (started : startOf root cursor = .ok start) {limit : Nat}
    {packages : List StoredVotePackage} {next : Option String}
    (shown : page config rows root cursor limit = .ok ⟨packages, next⟩) :
    (next = none ∧ (window rows root start.1 start.2).length ≤ config.clampPageSize limit ∧
      Integers (window rows root start.1 start.2) ∧
      storedAll (window rows root start.1 start.2) = .ok packages) ∨
    ∃ front row rest, window rows root start.1 start.2 = front ++ row :: rest ∧ rest ≠ [] ∧
      front.length + 1 = config.clampPageSize limit ∧ Integers (front ++ [row]) ∧
      storedAll (front ++ [row]) = .ok packages ∧ next = some (cursorAfter root row) ∧
      startOf root next = .ok (row.insertedAt, row.insertionSeq) := by
  obtain ⟨integers, found, cursorEq⟩ := (page_eq_ok_iff started).mp shown
  simp only at found cursorEq
  by_cases more : config.clampPageSize limit < (window rows root start.1 start.2).length
  · obtain ⟨front, row, rest, split, some_left, length, taken, last⟩ :=
      exists_last_shown (config.clamp_page_size_pos valid limit) more
    have integersShown : Integers (front ++ [row]) := by
      intro other member
      apply integers
      rw [← taken] at member
      exact (List.take_sublist_take_left (Nat.le_succ _)).subset member
    have inRows : row ∈ rows := by
      have inWindow : row ∈ window rows root start.1 start.2 := by
        rw [split]
        exact List.mem_append_right front List.mem_cons_self
      exact (mem_window_iff.mp inWindow).1.1
    have integer : row.hasIntegerSeq = true :=
      integersShown row (List.mem_append_right front List.mem_cons_self)
    rw [if_pos more, last, Option.map_some] at cursorEq
    rw [taken] at found
    right
    refine ⟨front, row, rest, split, some_left, length, integersShown, found, cursorEq, ?_⟩
    rw [cursorEq]
    exact sound.start_of_cursor_after root inRows integer
  · rw [if_neg more] at cursorEq
    rw [List.take_of_length_le (by omega)] at integers found
    exact Or.inl ⟨cursorEq, by omega, integers, found⟩

theorem Sound.page_of_readable {config : LedgerConfig} (valid : config.validate = .ok ())
    {rows : List VoteRow} (sound : Sound rows) {root : CensusRoot} {cursor : Option String}
    {start : Int × Int} (started : startOf root cursor = .ok start) (limit : Nat)
    (integers : Integers (window rows root start.1 start.2)) {listed : List StoredVotePackage}
    (found : storedAll (window rows root start.1 start.2) = .ok listed) :
    page config rows root cursor limit = .ok ⟨listed, none⟩ ∨
    ∃ front row rest packages others,
      window rows root start.1 start.2 = front ++ row :: rest ∧
      page config rows root cursor limit = .ok ⟨packages, some (cursorAfter root row)⟩ ∧
      startOf root (some (cursorAfter root row)) = .ok (row.insertedAt, row.insertionSeq) ∧
      storedAll rest = .ok others := by
  have looked : Integers ((window rows root start.1 start.2).take
      (config.clampPageSize limit + 1)) :=
    fun row member => integers row (List.mem_of_mem_take member)
  by_cases more : config.clampPageSize limit < (window rows root start.1 start.2).length
  · obtain ⟨front, row, rest, split, -, -, taken, last⟩ :=
      exists_last_shown (config.clamp_page_size_pos valid limit) more
    have regrouped : front ++ row :: rest = (front ++ [row]) ++ rest := by
      rw [List.append_assoc, List.singleton_append]
    have inWindow : row ∈ window rows root start.1 start.2 := by
      rw [split]
      exact List.mem_append_right front List.mem_cons_self
    have position := sound.start_of_cursor_after root (mem_window_iff.mp inWindow).1.1
      (integers row inWindow)
    rw [split, regrouped, stored_all_append_iff] at found
    obtain ⟨packages, others, isShown, areOthers, -⟩ := found
    refine Or.inr ⟨front, row, rest, packages, others, split, ?_, position, areOthers⟩
    rw [page_eq_ok_iff started]
    refine ⟨looked, by rw [taken, isShown], ?_⟩
    rw [if_pos more, last, Option.map_some]
  · left
    rw [page_eq_ok_iff started]
    refine ⟨looked, by rw [List.take_of_length_le (by omega), found], ?_⟩
    rw [if_neg more]

end VoteRows

end CensusNode
