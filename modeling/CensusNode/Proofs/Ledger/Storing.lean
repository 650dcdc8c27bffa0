import CensusNode.Ledger.Uniqueness
import CensusNode.Proofs.Ledger.AppendOnly
import Mathlib.Data.List.Perm.Subperm

/-!
What storing a package comes to. On the rows that accepted submissions have left behind, the outcome
hangs on these rows alone: an index that is too large, a row that agrees in a field, or one row more.
The number of a new row is never what stands in its way. Numbers run out only after 2 ^ 63 rows, and
by then no index is left.
-/

namespace CensusNode

def VoteRow.Agrees (row : VoteRow) (package : VotePackage) : UniqueField → Prop
  | .index => row.index = (package.index.toNat : Int)
  | .publicKey => row.publicKey = package.publicKey
  | .merkleProof => row.merkleProof = package.merkleProof

def Submission.Distinct (submission other : Submission) : Prop :=
  submission.package.index ≠ other.package.index ∧
    submission.package.publicKey ≠ other.package.publicKey ∧
    submission.package.merkleProof ≠ other.package.merkleProof

namespace UniqueColumn

def field? : UniqueColumn → Option UniqueField
  | .index => some .index
  | .insertionSeq => none
  | .merkleProof => some .merkleProof
  | .publicKey => some .publicKey

theorem of_refusal_text (column : UniqueColumn) :
    UniqueField.ofRefusal? column.refusalText = column.field? := by
  cases column <;> decide +kernel

theorem error_of_field {column : UniqueColumn} {field : UniqueField}
    (isField : column.field? = some field) (index : UInt64) :
    column.error index = .constraintViolation field index := by
  rw [error, of_refusal_text, isField, Option.elim_some]

theorem error_insertion_seq (index : UInt64) :
    insertionSeq.error index = .database .sequenceTaken := by
  rw [error, of_refusal_text]
  exact Option.elim_none _ _

variable {rows : List VoteRow} {package : VotePackage} {seq : Int}

theorem is_taken_iff {column : UniqueColumn} {field : UniqueField}
    (isField : column.field? = some field) :
    column.isTaken rows package seq = true ↔ ∃ row ∈ rows, row.Agrees package field := by
  cases column with
  | insertionSeq => cases isField
  | index | merkleProof | publicKey =>
      cases isField
      simp [isTaken, VoteRow.Agrees]

theorem seq_is_taken_iff :
    insertionSeq.isTaken rows package seq = true ↔ ∃ row ∈ rows, row.insertionSeq = seq := by
  simp [isTaken]

theorem mem_in_order (column : UniqueColumn) : column ∈ inOrder := by
  cases column <;> decide

theorem exists_of_field (field : UniqueField) :
    ∃ column : UniqueColumn, column.field? = some field := by
  cases field with
  | index => exact ⟨.index, rfl⟩
  | publicKey => exact ⟨.publicKey, rfl⟩
  | merkleProof => exact ⟨.merkleProof, rfl⟩

end UniqueColumn

namespace VoteRows

open UniqueColumn

/-- The database names the first column that is taken. -/
theorem refusal_eq (rows : List VoteRow) (package : VotePackage) (seq : Int) :
    refusal? rows package seq =
      (inOrder.find? (isTaken rows package seq)).map fun column => column.error package.index := by
  have index : index.error package.index = .constraintViolation .index package.index :=
    error_of_field rfl package.index
  have proof : merkleProof.error package.index = .constraintViolation .merkleProof package.index :=
    error_of_field rfl package.index
  have key : publicKey.error package.index = .constraintViolation .publicKey package.index :=
    error_of_field rfl package.index
  simp only [refusal?, inOrder, List.find?_cons, List.find?_nil, isTaken]
  cases rows.any fun row => row.index = (package.index.toNat : Int) with
  | true => exact congrArg some index.symm
  | false =>
      cases rows.any fun row => row.insertionSeq = seq with
      | true => exact congrArg some (error_insertion_seq package.index).symm
      | false =>
          cases rows.any fun row => row.merkleProof = package.merkleProof with
          | true => exact congrArg some proof.symm
          | false =>
              cases rows.any fun row => row.publicKey = package.publicKey with
              | true => exact congrArg some key.symm
              | false => rfl

theorem Sound.index_bounds {rows : List VoteRow} (sound : Sound rows) {row : VoteRow}
    (member : row ∈ rows) : 0 ≤ row.index ∧ row.index ≤ maxRowInteger := by
  obtain ⟨root, package, now, storable, written⟩ := sound.written row member
  have index : row.index = (package.index.toNat : Int) := by rw [written]; rfl
  rw [isStorable, decide_eq_true_eq] at storable
  omega

theorem Sound.room_of_fresh {rows : List VoteRow} (sound : Sound rows) {index : Nat}
    (storable : index ≤ maxRowInteger) (fresh : ∀ row ∈ rows, row.index ≠ (index : Int)) :
    rows.length ≤ maxRowInteger := by
  -- The indices of the rows and the free one are different numbers below 2 ^ 63.
  have distinct : (rows.map VoteRow.index).Nodup :=
    List.pairwise_map.mpr (sound.apart.imp fun apart => apart.1)
  have nodup : (index :: rows.map fun row => row.index.toNat).Nodup := by
    rw [List.nodup_cons]
    constructor
    · intro member
      obtain ⟨row, inRows, same⟩ := List.mem_map.mp member
      have bounds := sound.index_bounds inRows
      exact fresh row inRows (by omega)
    · rw [List.Nodup, List.pairwise_map] at distinct ⊢
      apply distinct.imp_of_mem
      intro row other member otherMember different same
      have bounds := sound.index_bounds member
      have otherBounds := sound.index_bounds otherMember
      exact different (by omega)
  have within : (index :: rows.map fun row => row.index.toNat) ⊆
      List.range (maxRowInteger + 1) := by
    intro number member
    rw [List.mem_range]
    rcases List.mem_cons.mp member with isIndex | isOther
    · omega
    · obtain ⟨row, inRows, same⟩ := List.mem_map.mp isOther
      have bounds := sound.index_bounds inRows
      omega
  have fits := (nodup.subperm within).length_le
  rw [List.length_cons, List.length_map, List.length_range] at fits
  omega

theorem Sound.next_seq_of_room {rows : List VoteRow} (sound : Sound rows)
    (room : rows.length ≤ maxRowInteger) : nextSeq rows = rows.length + 1 := by
  rw [nextSeq, sound.largest, if_neg (by omega)]

/-- A package whose index is free is never refused for the number it would get. -/
theorem Sound.seq_is_free {rows : List VoteRow} (sound : Sound rows) {package : VotePackage}
    (storable : package.index.toNat ≤ maxRowInteger)
    (fresh : index.isTaken rows package (nextSeq rows) = false) :
    insertionSeq.isTaken rows package (nextSeq rows) = false := by
  have isField : index.field? = some .index := rfl
  rw [← Bool.not_eq_true, is_taken_iff isField] at fresh
  have noIndex : ∀ row ∈ rows, row.index ≠ (package.index.toNat : Int) :=
    fun row member same => fresh ⟨row, member, same⟩
  have next := sound.next_seq_of_room (sound.room_of_fresh storable noIndex)
  rw [← Bool.not_eq_true, seq_is_taken_iff]
  rintro ⟨row, member, same⟩
  have bounds := sound.seq_mem.mp (List.mem_map_of_mem member)
  omega

/-- The column that the database names is the column of a field. -/
theorem Sound.refused_in_field {rows : List VoteRow} (sound : Sound rows) {package : VotePackage}
    (storable : package.index.toNat ≤ maxRowInteger) {column : UniqueColumn}
    (named : inOrder.find? (isTaken rows package (nextSeq rows)) = some column) :
    ∃ field, column.field? = some field := by
  cases column with
  | index => exact ⟨.index, rfl⟩
  | merkleProof => exact ⟨.merkleProof, rfl⟩
  | publicKey => exact ⟨.publicKey, rfl⟩
  | insertionSeq =>
      -- The index is compared first, so that it is free when the number is named.
      have taken := List.find?_some named
      cases isIndex : index.isTaken rows package (nextSeq rows) with
      | true =>
          rw [inOrder, List.find?_cons_of_pos isIndex] at named
          cases named
      | false =>
          rw [sound.seq_is_free storable isIndex] at taken
          cases taken

theorem Sound.store_cases {rows : List VoteRow} (sound : Sound rows) (root : CensusRoot)
    (package : VotePackage) (now : Instant) :
    (maxRowInteger < package.index.toNat ∧
      store rows root package now = .error (.indexOutOfRange package.index)) ∨
    (package.index.toNat ≤ maxRowInteger ∧
      ∃ field, (∃ row ∈ rows, row.Agrees package field) ∧
        store rows root package now = .error (.constraintViolation field package.index)) ∨
    (package.index.toNat ≤ maxRowInteger ∧ (∀ row ∈ rows, ∀ field, ¬row.Agrees package field) ∧
      store rows root package now = .ok (rows ++ [rowOf root package now (rows.length + 1)])) := by
  by_cases tooLarge : maxRowInteger < package.index.toNat
  · left
    refine ⟨tooLarge, ?_⟩
    rw [store, if_pos (by simpa [isStorable] using tooLarge)]
  · right
    have storable : package.index.toNat ≤ maxRowInteger := Nat.le_of_not_lt tooLarge
    have kept : ¬(!isStorable package) = true := by simpa [isStorable] using storable
    cases named : inOrder.find? (isTaken rows package (nextSeq rows)) with
    | some column =>
        left
        obtain ⟨field, isField⟩ := sound.refused_in_field storable named
        have agrees := (is_taken_iff isField).mp (List.find?_some named)
        have refused := refusal_eq rows package (nextSeq rows)
        rw [named, Option.map_some, error_of_field isField] at refused
        refine ⟨storable, field, agrees, ?_⟩
        rw [store, if_neg kept]
        simp only [refused]
    | none =>
        right
        have accepted := refusal_eq rows package (nextSeq rows)
        rw [named, Option.map_none] at accepted
        have fresh : ∀ row ∈ rows, ∀ field, ¬row.Agrees package field := by
          intro row member field agrees
          obtain ⟨column, isField⟩ := exists_of_field field
          have free := List.find?_eq_none.mp named column (mem_in_order column)
          exact free ((is_taken_iff isField).mpr ⟨row, member, agrees⟩)
        refine ⟨storable, fresh, ?_⟩
        rw [store, if_neg kept, ← (sound.next_seq accepted).2]
        simp only [accepted]

end VoteRows

namespace LedgerState

/-- An open ledger that had no rows when it was first opened, and the submissions it has accepted
since then. A ledger that lies in no file has not been closed in between. -/
def Reached (accepted : List Submission) (disk : Disk) (ledger : OpenLedger) : Prop :=
  ∃ path before start config first steps,
    before.WellFormed ∧ Ledger.openAt before path config = (.done first, start) ∧
    first.rows start = [] ∧ Lasting path steps ∧
    run path ⟨start, some first⟩ steps = (accepted, ⟨disk, some ledger⟩)

variable {accepted : List Submission} {disk : Disk} {ledger : OpenLedger}

theorem Reached.rows (reached : Reached accepted disk ledger) :
    VoteRows.Sound (VoteRows.rowsOf accepted) ∧ ledger.rows disk = VoteRows.rowsOf accepted := by
  obtain ⟨path, before, start, config, first, steps, formed, opened, anew, lasting, ran⟩ := reached
  obtain ⟨sound, rows⟩ := run_rows formed opened anew lasting
  rw [ran] at sound rows
  exact ⟨sound, rows ledger rfl⟩

theorem Reached.submitted (reached : Reached accepted disk ledger) {submission : Submission}
    {after : Disk} (stored : ledger.submit disk submission = (.ok (), after)) :
    Reached (accepted ++ [submission]) after ledger := by
  obtain ⟨path, before, start, config, first, steps, formed, opened, anew, lasting, ran⟩ := reached
  refine ⟨path, before, start, config, first, steps ++ [.submitted submission], formed, opened, anew,
    ?_, ?_⟩
  · apply lasting.imp_right
    intro submitted step member
    rcases List.mem_append.mp member with early | last
    · exact submitted step early
    · exact ⟨submission, List.mem_singleton.mp last⟩
  · rw [run_append, ran, run_cons, step]
    simp only [stored]
    rfl

theorem submit_refused (takesRows : ledger.writable = true) {submission : Submission}
    {error : LedgerError}
    (refused : VoteRows.store (ledger.rows disk) submission.root submission.package
      submission.now = .error error) :
    ledger.submit disk submission = (.error error, disk) := by
  rw [OpenLedger.submit, takesRows, Bool.not_true, Bool.and_false, refused]
  rfl

theorem submit_stored (takesRows : ledger.writable = true) {submission : Submission}
    {rows : List VoteRow}
    (stored : VoteRows.store (ledger.rows disk) submission.root submission.package
      submission.now = .ok rows) :
    ledger.submit disk submission = (.ok (), ledger.putRows disk rows) := by
  rw [OpenLedger.submit, takesRows, Bool.not_true, Bool.and_false, stored]
  rfl

theorem Reached.submit_cases (reached : Reached accepted disk ledger)
    (takesRows : ledger.writable = true) (submission : Submission) :
    (maxRowInteger < submission.package.index.toNat ∧
      ledger.submit disk submission =
        (.error (.indexOutOfRange submission.package.index), disk)) ∨
    (submission.package.index.toNat ≤ maxRowInteger ∧
      ∃ field, (∃ row ∈ ledger.rows disk, row.Agrees submission.package field) ∧
        ledger.submit disk submission =
          (.error (.constraintViolation field submission.package.index), disk)) ∨
    (submission.package.index.toNat ≤ maxRowInteger ∧
      (∀ row ∈ ledger.rows disk, ∀ field, ¬row.Agrees submission.package field) ∧
      ∃ after, ledger.submit disk submission = (.ok (), after) ∧
        Reached (accepted ++ [submission]) after ledger) := by
  have sound := reached.rows.1
  rw [← reached.rows.2] at sound
  rcases sound.store_cases submission.root submission.package submission.now with
    ⟨tooLarge, refused⟩ | ⟨storable, field, agrees, refused⟩ | ⟨storable, fresh, stored⟩
  · exact Or.inl ⟨tooLarge, submit_refused takesRows refused⟩
  · exact Or.inr (Or.inl ⟨storable, field, agrees, submit_refused takesRows refused⟩)
  · have added := submit_stored takesRows stored
    exact Or.inr (Or.inr ⟨storable, fresh, _, added, reached.submitted added⟩)

theorem not_agrees_of_distinct {submission other : Submission}
    (distinct : submission.Distinct other) (number : Nat) (field : UniqueField) :
    ¬(submission.row number).Agrees other.package field := by
  cases field with
  | index =>
      intro same
      exact distinct.1 (UInt64.toNat_inj.mp (Int.ofNat.inj same))
  | publicKey => exact distinct.2.1
  | merkleProof => exact distinct.2.2

theorem Reached.accepts (reached : Reached accepted disk ledger) (takesRows : ledger.writable = true)
    {submission : Submission} (storable : submission.package.index.toNat ≤ maxRowInteger)
    (distinct : ∀ earlier ∈ accepted, earlier.Distinct submission) :
    ∃ after, Reached (accepted ++ [submission]) after ledger := by
  rcases reached.submit_cases takesRows submission with
    ⟨tooLarge, -⟩ | ⟨-, field, ⟨row, member, agrees⟩, -⟩ | ⟨-, -, after, -, further⟩
  · exact absurd storable (Nat.not_le.mpr tooLarge)
  · rw [reached.rows.2] at member
    obtain ⟨place, inRange, isRow⟩ := List.mem_mapIdx.mp member
    rw [← isRow] at agrees
    exact absurd agrees (not_agrees_of_distinct (distinct _ (List.getElem_mem inRange)) _ field)
  · exact ⟨after, further⟩

theorem Reached.accepts_all (reached : Reached accepted disk ledger)
    (takesRows : ledger.writable = true) {more : List Submission}
    (storable : ∀ submission ∈ more, submission.package.index.toNat ≤ maxRowInteger)
    (distinct : (accepted ++ more).Pairwise Submission.Distinct) :
    ∃ after, Reached (accepted ++ more) after ledger := by
  -- By induction on what is still to be stored; each step moves one submission over to the accepted.
  induction more generalizing accepted disk with
  | nil =>
      rw [List.append_nil]
      exact ⟨disk, reached⟩
  | cons submission rest induction =>
      have earlier := (List.pairwise_append.mp distinct).2.2
      obtain ⟨after, further⟩ := reached.accepts takesRows (storable submission List.mem_cons_self)
        fun other member => earlier other member submission List.mem_cons_self
      have regrouped : accepted ++ submission :: rest = accepted ++ [submission] ++ rest := by
        rw [List.append_assoc, List.singleton_append]
      rw [regrouped] at distinct ⊢
      exact induction further (fun other member => storable other (List.mem_cons_of_mem _ member))
        distinct

/-- Submissions that agree in nothing can all be stored, whatever their times. -/
theorem exists_reached (submissions : List Submission)
    (storable : ∀ submission ∈ submissions, submission.package.index.toNat ≤ maxRowInteger)
    (distinct : submissions.Pairwise Submission.Distinct) :
    ∃ disk ledger, Reached submissions disk ledger ∧ ledger.writable = true := by
  have computed : (Ledger.opened? Disk.nothing "votes.sqlite" .defaults).map (fun opened =>
      (opened.1.rows opened.2, opened.1.writable)) = some ([], true) := by
    decide +kernel
  have isFile : LedgerAddress.place "votes.sqlite" = .ok (.file "votes.sqlite" .defaults) := by
    rfl
  obtain ⟨⟨ledger, disk⟩, found, both⟩ := Option.map_eq_some_iff.mp computed
  obtain ⟨anew, takesRows⟩ := Prod.mk.inj both
  have opened := Ledger.opened_eq_some found
  have start : Reached [] disk ledger :=
    ⟨_, _, _, _, _, [], Disk.nothing_well_formed, opened, anew, Or.inl ⟨_, _, isFile⟩, rfl⟩
  obtain ⟨after, reached⟩ := start.accepts_all takesRows storable distinct
  exact ⟨after, ledger, reached, takesRows⟩

end LedgerState

end CensusNode
