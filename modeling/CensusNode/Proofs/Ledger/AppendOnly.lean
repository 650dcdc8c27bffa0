import CensusNode.Proofs.Ledger.AnyOpening
import CensusNode.Proofs.Ledger.QuietWalks
import CensusNode.Service.Basic

/-!
Ledgers only ever grow. Packages are submitted to a ledger, which may be closed and opened again in
between, at whatever times and with whatever outcome. Its rows are those of the accepted
submissions, numbered in their order, no two rows agree in a unique column, and a package that was
accepted is handed out from then on.
-/

namespace CensusNode

namespace Submission

def row (submission : Submission) (number : Nat) : VoteRow :=
  VoteRows.rowOf submission.root submission.package submission.now number

/-- What is handed out for an accepted submission with the given number: its package under its root,
with the microseconds of the clock at that time. Only a leap second after the very last second has
none, and only a number beyond the integers of the database cannot be read. -/
def handedOut (submission : Submission) (number : Nat) : Except LedgerError StoredVotePackage :=
  if maxRowInteger < number then .error (.database .sequenceNotInteger)
  else
    match Instant.ofMicros? submission.now.micros with
    | none => .error (.corruptRow (.timestampRange submission.now.micros))
    | some insertedAt => .ok ⟨submission.root, submission.package, insertedAt⟩

theorem handed_out_of_in_time {submission : Submission} {number : Nat}
    (inTime : submission.now.micros ≤ Instant.latestMicros) (integer : number ≤ maxRowInteger) :
    ∃ insertedAt, insertedAt.micros = submission.now.micros ∧
      submission.handedOut number = .ok ⟨submission.root, submission.package, insertedAt⟩ := by
  obtain ⟨insertedAt, found⟩ := Instant.of_micros_is_some submission.now.micros_bounds.1 inTime
  refine ⟨insertedAt, Instant.micros_of_of_micros found, ?_⟩
  rw [handedOut, if_neg (Nat.not_lt.mpr integer), found]

end Submission

namespace VoteRows

def rowsOf (accepted : List Submission) : List VoteRow :=
  accepted.mapIdx fun place submission => submission.row (place + 1)

theorem rows_of_append (accepted : List Submission) (submission : Submission) :
    rowsOf (accepted ++ [submission]) = rowsOf accepted ++ [submission.row (accepted.length + 1)] := by
  simp [rowsOf, List.mapIdx_append]

@[simp] theorem length_rows_of (accepted : List Submission) :
    (rowsOf accepted).length = accepted.length := by
  simp [rowsOf]

theorem store_rows_of {accepted : List Submission} (sound : Sound (rowsOf accepted))
    {submission : Submission} {after : List VoteRow}
    (stored : store (rowsOf accepted) submission.root submission.package submission.now =
      .ok after) :
    after = rowsOf (accepted ++ [submission]) ∧ Sound (rowsOf (accepted ++ [submission])) := by
  obtain ⟨storable, accepts, isAfter⟩ := store_ok stored
  obtain ⟨-, next⟩ := sound.next_seq accepts
  have isRow : rowOf submission.root submission.package submission.now
      (nextSeq (rowsOf accepted)) = submission.row (accepted.length + 1) := by
    rw [next, length_rows_of]
    rfl
  have grown := sound.append submission.root submission.now storable accepts
  rw [isRow, ← rows_of_append] at grown
  rw [isRow, ← rows_of_append] at isAfter
  exact ⟨isAfter, grown⟩

theorem Sound.find {rows : List VoteRow} (sound : Sound rows) {row : VoteRow} (member : row ∈ rows) :
    rows.find? (fun other => other.index = row.index) = some row := by
  obtain ⟨before, later, split⟩ := List.append_of_mem member
  have apart := sound.apart
  rw [split, List.pairwise_append] at apart
  rw [List.find?_eq_some_iff_append]
  refine ⟨decide_eq_true rfl, before, later, split, ?_⟩
  intro other isBefore
  simpa using (apart.2.2 other isBefore row List.mem_cons_self).1

theorem readable_row (submission : Submission) (number : Nat) :
    readable [submission.row number] =
      if maxRowInteger < number then .error (.database .sequenceNotInteger)
      else .ok [submission.row number] := by
  have hasInteger : [submission.row number].all VoteRow.hasIntegerSeq =
      decide (number ≤ maxRowInteger) := by
    rw [List.all_cons, List.all_nil, Bool.and_true, VoteRow.hasIntegerSeq]
    exact decide_eq_decide.mpr Int.ofNat_le
  rw [readable, hasInteger]
  by_cases beyond : maxRowInteger < number
  · rw [if_pos beyond, if_neg (by simpa using beyond)]
  · rw [if_neg beyond, if_pos (by simpa using beyond)]

/-- An accepted package is handed out under its index. -/
theorem Sound.get_of_accepted {accepted : List Submission} (sound : Sound (rowsOf accepted))
    {place : Nat} {submission : Submission} (isAt : accepted[place]? = some submission) :
    get (rowsOf accepted) submission.package.index = submission.handedOut (place + 1) := by
  have member : submission.row (place + 1) ∈ rowsOf accepted := by
    rw [List.mem_iff_getElem?]
    exact ⟨place, by rw [rowsOf, List.getElem?_mapIdx, isAt, Option.map_some]⟩
  have found := sound.find member
  have sameIndex : (submission.row (place + 1)).index = (submission.package.index.toNat : Int) := rfl
  rw [sameIndex] at found
  simp only [get, found, readable_row, Submission.handedOut]
  by_cases beyond : maxRowInteger < place + 1
  · rw [if_pos beyond, if_pos beyond]
    rfl
  · rw [if_neg beyond, if_neg beyond]
    exact stored_row_of submission.root submission.package submission.now (place + 1 : Nat)

end VoteRows

namespace OpenLedger

def submit (ledger : OpenLedger) (disk : Disk) (submission : Submission) :
    Except LedgerError Unit × Disk :=
  if VoteRows.isStorable submission.package && !ledger.writable then
    (.error (.database .readOnly), disk)
  else
    match VoteRows.store (ledger.rows disk) submission.root submission.package submission.now with
    | .ok rows => (.ok (), ledger.putRows disk rows)
    | .error error => (.error error, disk)

/-- This is how a service adds a package to its ledger. -/
theorem store_vote_eq (service : Service) (root : CensusRoot) (package : VotePackage)
    (now : Instant) :
    service.storeVote root package now =
      (Service.liftLedger (service.ledger.submit service.disk ⟨root, package, now⟩).1,
        { service with registry := { service.registry with
            disk := (service.ledger.submit service.disk ⟨root, package, now⟩).2 } }) := by
  have sameRows : service.rows = service.ledger.rows service.disk := rfl
  rw [Service.storeVote, submit, sameRows]
  split
  · rfl
  · cases VoteRows.store (service.ledger.rows service.disk) root package now <;> rfl

theorem submit_result (ledger : OpenLedger) (disk : Disk) (submission : Submission) :
    (∃ error, ledger.submit disk submission = (.error error, disk)) ∨
      ∃ rows, ledger.submit disk submission = (.ok (), ledger.putRows disk rows) ∧
        VoteRows.store (ledger.rows disk) submission.root submission.package submission.now =
          .ok rows := by
  rw [submit]
  split
  · exact Or.inl ⟨_, rfl⟩
  · cases VoteRows.store (ledger.rows disk) submission.root submission.package submission.now with
    | error error => exact Or.inl ⟨error, rfl⟩
    | ok rows => exact Or.inr ⟨rows, rfl, rfl⟩

/-- What submitting comes to on a ledger with the rows of accepted submissions: one row more, or
nothing. -/
theorem submit_cases {ledger : OpenLedger} {disk : Disk} {accepted : List Submission}
    (inRange : ledger.file < disk.contents.length)
    (apart : ∀ log, ledger.log = some log → ledger.file ≠ log)
    (rows : ledger.rows disk = VoteRows.rowsOf accepted)
    (sound : VoteRows.Sound (VoteRows.rowsOf accepted)) (submission : Submission) :
    (∃ error, ledger.submit disk submission = (.error error, disk)) ∨
      ∃ more, ledger.submit disk submission = (.ok (), ledger.putRows disk more) ∧
        ledger.rows (ledger.putRows disk more) = VoteRows.rowsOf (accepted ++ [submission]) ∧
        VoteRows.Sound (VoteRows.rowsOf (accepted ++ [submission])) := by
  rcases ledger.submit_result disk submission with refused | ⟨more, submitted, stored⟩
  · exact Or.inl refused
  · rw [rows] at stored
    obtain ⟨isMore, grown⟩ := VoteRows.store_rows_of sound stored
    refine Or.inr ⟨more, submitted, ?_, grown⟩
    rw [OpenLedger.rows, Disk.rowsAt, Ledger.put_rows_content inRange apart, isMore]
    rfl

end OpenLedger

inductive LedgerStep where
  | submitted (submission : Submission)
  | reopened (config : LedgerConfig)

/-- A ledger on its disk. There is none after an opening that failed. -/
structure LedgerState where
  disk : Disk
  ledger : Option OpenLedger

namespace LedgerState

def close (state : LedgerState) : Disk :=
  match state.ledger with
  | none => state.disk
  | some ledger => ledger.close state.disk

def step (path : String) (state : LedgerState) : LedgerStep → Option Submission × LedgerState
  | .submitted submission =>
      match state.ledger with
      | none => (none, state)
      | some ledger =>
          match ledger.submit state.disk submission with
          | (.ok (), disk) => (some submission, { state with disk })
          | (.error _, disk) => (none, { state with disk })
  | .reopened config =>
      match Ledger.openAt state.close path config with
      | (.done ledger, disk) => (none, ⟨disk, some ledger⟩)
      | (.failed _, disk) | (.crashed, disk) => (none, ⟨disk, none⟩)

/-- The submissions that were accepted in some steps, and the state after them. -/
def run (path : String) (state : LedgerState) : List LedgerStep → List Submission × LedgerState
  | [] => ([], state)
  | step :: rest =>
      let (accepted, next) := state.step path step
      let (more, last) := next.run path rest
      (accepted.toList ++ more, last)

theorem run_cons (path : String) (state : LedgerState) (step : LedgerStep)
    (rest : List LedgerStep) :
    state.run path (step :: rest) =
      ((state.step path step).1.toList ++ ((state.step path step).2.run path rest).1,
        ((state.step path step).2.run path rest).2) := rfl

theorem run_append (path : String) (state : LedgerState) (first second : List LedgerStep) :
    state.run path (first ++ second) =
      ((state.run path first).1 ++ ((state.run path first).2.run path second).1,
        ((state.run path first).2.run path second).2) := by
  induction first generalizing state with
  | nil => rfl
  | cons step rest induction =>
      rw [List.cons_append, run_cons, induction, run_cons, List.append_assoc]

/-- A ledger in the file at a place, open or not, that has accepted some submissions. -/
structure OnFile (target : String) (place : Location) (file : FileId)
    (accepted : List Submission) (state : LedgerState) : Prop where
  formed : state.disk.WellFormed
  placed : Ledger.ledgerPlace state.disk target = place
  named : state.disk.fileAt? place = some file
  holds : state.disk.rowsAt file = VoteRows.rowsOf accepted
  sound : VoteRows.Sound (VoteRows.rowsOf accepted)
  stands : ∀ ledger, state.ledger = some ledger →
    ledger.file = file ∧ Ledger.Stands place state.disk ledger

variable {path target : String} {options : LedgerOptions} {place : Location} {file : FileId}
  {accepted : List Submission} {state : LedgerState}

theorem OnFile.rows (onFile : state.OnFile target place file accepted) {ledger : OpenLedger}
    (isOpen : state.ledger = some ledger) :
    ledger.rows state.disk = VoteRows.rowsOf accepted := by
  rw [OpenLedger.rows, (onFile.stands ledger isOpen).1]
  exact onFile.holds

theorem OnFile.submitted (onFile : state.OnFile target place file accepted)
    (submission : Submission) :
    (state.step path (.submitted submission)).2.OnFile target place file
      (accepted ++ (state.step path (.submitted submission)).1.toList) := by
  rw [step]
  cases isOpen : state.ledger with
  | none =>
      rw [Option.toList_none, List.append_nil]
      exact onFile
  | some ledger =>
      obtain ⟨isFile, stands⟩ := onFile.stands ledger isOpen
      have inRange := onFile.formed.in_range _ _ stands.named
      have apart (log : FileId) (isLog : ledger.log = some log) : ledger.file ≠ log := by
        apply onFile.formed.file_ne (stands.log log isLog) stands.named
        intro same
        have member := Ledger.log_mem_companions place
        rw [← same] at member
        exact stands.apart member
      rcases ledger.submit_cases inRange apart (onFile.rows isOpen) onFile.sound submission with
        ⟨error, refused⟩ | ⟨more, stored, rows, sound⟩
      · simp only [refused, Option.toList_none, List.append_nil]
        exact { onFile with stands := by simpa [isOpen] using onFile.stands ledger isOpen }
      · simp only [stored, Option.toList_some]
        have handled : Ledger.Handled place file state.disk (ledger.putRows state.disk more) :=
          Ledger.put_rows_handled onFile.formed onFile.named isFile stands.log more
        constructor
        · exact handled.formed
        · exact (Ledger.ledger_place_extends handled.extended target).trans onFile.placed
        · rw [Ledger.put_rows_file_at, onFile.named]
        · rw [← isFile]
          exact rows
        · exact sound
        · intro same isSame
          obtain rfl := Option.some.inj isSame
          refine ⟨isFile, ?_, stands.apart, ?_, stands.leftovers⟩
          · rw [Ledger.put_rows_file_at, stands.named]
          · intro log isLog
            rw [Ledger.put_rows_file_at, stands.log log isLog]

/-- A ledger that is closed leaves its file and the rows in it. -/
theorem OnFile.closed (onFile : state.OnFile target place file accepted) :
    OnFile target place file accepted ⟨state.close, none⟩ := by
  rw [close]
  cases isOpen : state.ledger with
  | none => exact { onFile with stands := fun _ isNone => by cases isNone }
  | some ledger =>
      obtain ⟨isFile, stands⟩ := onFile.stands ledger isOpen
      obtain ⟨handled, same⟩ := stands.close onFile.formed
      constructor
      · exact handled.formed
      · exact (Ledger.ledger_place_extends handled.extended target).trans onFile.placed
      · exact (handled.names place stands.apart).trans onFile.named
      · rw [Disk.rowsAt, same]
        exact onFile.holds
      · exact onFile.sound
      · exact fun _ isNone => by cases isNone

/-- Whatever opening a ledger comes to, its file and the rows in it are there afterwards. -/
theorem OnFile.opened (onFile : state.OnFile target place file accepted)
    (isFile : LedgerAddress.place path = .ok (.file target options)) (config : LedgerConfig)
    (ledger : Option OpenLedger)
    (isLedger : ∀ opened, ledger = some opened →
      (Ledger.openAt state.disk path config).1 = .done opened) :
    OnFile target place file accepted ⟨(Ledger.openAt state.disk path config).2, ledger⟩ := by
  rcases Ledger.open_at_cases onFile.formed isFile config with
    ⟨error, failed, grows, formed⟩ | ⟨found, visited, opened⟩
  · constructor
    · exact formed
    · exact (Ledger.ledger_place_extends grows.toExtends target).trans onFile.placed
    · rw [grows.file_at, onFile.named]
    · rw [Disk.rowsAt, grows.content]
      exact onFile.holds
    · exact onFile.sound
    · intro other isOther
      have isDone := isLedger other isOther
      rw [failed] at isDone
      cases isDone
  · rw [onFile.placed] at visited opened
    obtain rfl := visited.same file onFile.named
    constructor
    · exact visited.formed
    · exact (Ledger.ledger_place_extends visited.extended target).trans onFile.placed
    · exact visited.named
    · rw [Disk.rowsAt, visited.carries.rows]
      exact onFile.holds
    · exact onFile.sound
    · intro other isOther
      obtain ⟨same, isOpened⟩ := opened other (isLedger other isOther)
      exact ⟨same, isOpened.toStands⟩

theorem OnFile.reopened (onFile : state.OnFile target place file accepted)
    (isFile : LedgerAddress.place path = .ok (.file target options)) (config : LedgerConfig) :
    (state.step path (.reopened config)).2.OnFile target place file
      (accepted ++ (state.step path (.reopened config)).1.toList) := by
  have opened := onFile.closed.opened isFile config
  rw [step]
  cases result : Ledger.openAt state.close path config with
  | mk outcome disk =>
      simp only [result] at opened
      cases outcome with
      | done ledger =>
          simp only [Option.toList_none, List.append_nil]
          exact opened _ fun _ same => congrArg Outcome.done (Option.some.inj same)
      | failed error =>
          simp only [Option.toList_none, List.append_nil]
          exact opened none fun _ isNone => by cases isNone
      | crashed =>
          simp only [Option.toList_none, List.append_nil]
          exact opened none fun _ isNone => by cases isNone

theorem OnFile.run (onFile : state.OnFile target place file accepted)
    (isFile : LedgerAddress.place path = .ok (.file target options)) (steps : List LedgerStep) :
    (state.run path steps).2.OnFile target place file (accepted ++ (state.run path steps).1) := by
  -- What was accepted so far stays general, since each step may add to it.
  induction steps generalizing state accepted with
  | nil =>
      rw [LedgerState.run, List.append_nil]
      exact onFile
  | cons step rest induction =>
      rw [run_cons, ← List.append_assoc]
      cases step with
      | submitted submission => exact induction (onFile.submitted submission)
      | reopened config => exact induction (onFile.reopened isFile config)

structure Fleeting (accepted : List Submission) (state : LedgerState) (ledger : OpenLedger) :
    Prop where
  isOpen : state.ledger = some ledger
  inRange : ledger.file < state.disk.contents.length
  log : ledger.log = none
  rows : ledger.rows state.disk = VoteRows.rowsOf accepted
  sound : VoteRows.Sound (VoteRows.rowsOf accepted)

theorem Fleeting.submitted {ledger : OpenLedger} (fleeting : state.Fleeting accepted ledger)
    (submission : Submission) :
    (state.step path (.submitted submission)).2.Fleeting
      (accepted ++ (state.step path (.submitted submission)).1.toList) ledger := by
  have apart (log : FileId) (isLog : ledger.log = some log) : ledger.file ≠ log := by
    rw [fleeting.log] at isLog
    cases isLog
  rw [step, fleeting.isOpen]
  rcases ledger.submit_cases fleeting.inRange apart fleeting.rows fleeting.sound submission with
    ⟨error, refused⟩ | ⟨more, stored, rows, sound⟩
  · simp only [refused, Option.toList_none, List.append_nil]
    exact ⟨rfl, fleeting.inRange, fleeting.log, fleeting.rows, fleeting.sound⟩
  · simp only [stored, Option.toList_some]
    refine ⟨rfl, ?_, fleeting.log, rows, sound⟩
    rw [OpenLedger.putRows, OpenLedger.markLog, fleeting.log]
    exact Nat.lt_of_lt_of_eq fleeting.inRange List.length_set.symm

theorem Fleeting.run {ledger : OpenLedger} (fleeting : state.Fleeting accepted ledger)
    {steps : List LedgerStep}
    (lasting : ∀ step ∈ steps, ∃ submission, step = .submitted submission) :
    (state.run path steps).2.Fleeting (accepted ++ (state.run path steps).1) ledger := by
  induction steps generalizing state accepted with
  | nil =>
      rw [LedgerState.run, List.append_nil]
      exact fleeting
  | cons step rest induction =>
      obtain ⟨submission, isSubmitted⟩ := lasting step List.mem_cons_self
      rw [run_cons, ← List.append_assoc, isSubmitted]
      exact induction (fleeting.submitted submission)
        fun other member => lasting other (List.mem_cons_of_mem _ member)

/-- The disk under a ledger that lies in no file. Nothing goes from it when the ledger is closed. -/
structure Passing (state : LedgerState) : Prop where
  formed : state.disk.WellFormed
  log : ∀ ledger, state.ledger = some ledger → ledger.log = none
  leftovers : ∀ ledger, state.ledger = some ledger → ledger.leftovers = []

theorem passing_of_opened {before disk : Disk} {config : LedgerConfig} {ledger : OpenLedger}
    {readOnly : Bool} (formed : before.WellFormed)
    (isFleeting : LedgerAddress.place path = .ok (.fleeting readOnly))
    (opened : Ledger.openAt before path config = (.done ledger, disk)) :
    Passing ⟨disk, some ledger⟩ := by
  obtain ⟨made, -, madeFormed, isLedger, isDisk⟩ := Ledger.open_at_fleeting formed isFleeting opened
  refine ⟨?_, ?_, ?_⟩
  · rw [isDisk]
    exact madeFormed.create_unnamed
  · intro other isOther
    rw [← Option.some.inj isOther, isLedger]
  · intro other isOther
    rw [← Option.some.inj isOther, isLedger]

theorem Passing.close_eq (passing : state.Passing) : state.close = state.disk := by
  rw [close]
  cases isOpen : state.ledger with
  | none => rfl
  | some ledger =>
      simp only [OpenLedger.close, passing.leftovers ledger isOpen]
      rfl

theorem Passing.submitted (passing : state.Passing) (submission : Submission) :
    (state.step path (.submitted submission)).2.Passing := by
  obtain ⟨disk, held⟩ := state
  cases held with
  | none => exact passing
  | some ledger =>
      have noLog := passing.log ledger rfl
      rw [step]
      rcases ledger.submit_result disk submission with ⟨error, refused⟩ | ⟨rows, stored, -⟩
      · simp only [refused]
        exact passing
      · simp only [stored]
        refine ⟨?_, passing.log, passing.leftovers⟩
        rw [OpenLedger.putRows, OpenLedger.markLog, noLog]
        exact passing.formed.set_content

theorem Passing.reopened (passing : state.Passing) {readOnly : Bool}
    (isFleeting : LedgerAddress.place path = .ok (.fleeting readOnly)) (config : LedgerConfig) :
    (state.step path (.reopened config)).2.Passing := by
  have formed := Ledger.open_at_fleeting_formed passing.formed isFleeting config
  rw [step, passing.close_eq]
  cases result : Ledger.openAt state.disk path config with
  | mk outcome disk =>
      rw [result] at formed
      cases outcome with
      | failed error => exact ⟨formed, fun _ isNone => (nomatch isNone), fun _ isNone => (nomatch isNone)⟩
      | crashed => exact ⟨formed, fun _ isNone => (nomatch isNone), fun _ isNone => (nomatch isNone)⟩
      | done ledger => exact passing_of_opened passing.formed isFleeting result

theorem Passing.run (passing : state.Passing) {readOnly : Bool}
    (isFleeting : LedgerAddress.place path = .ok (.fleeting readOnly)) (steps : List LedgerStep) :
    (state.run path steps).2.Passing := by
  induction steps generalizing state with
  | nil => exact passing
  | cons step rest induction =>
      rw [run_cons]
      cases step with
      | submitted submission => exact induction (passing.submitted submission)
      | reopened config => exact induction (passing.reopened isFleeting config)

theorem open_at_of_reopened {config : LedgerConfig} {ledger : OpenLedger}
    (isOpen : (state.step path (.reopened config)).2.ledger = some ledger) :
    Ledger.openAt state.close path config =
      (.done ledger, (state.step path (.reopened config)).2.disk) := by
  rw [step] at isOpen ⊢
  cases result : Ledger.openAt state.close path config with
  | mk outcome disk =>
      rw [result] at isOpen
      cases outcome with
      | failed error => cases isOpen
      | crashed => cases isOpen
      | done other =>
          rw [← Option.some.inj isOpen]

/-- A ledger outlasts some steps if it lies in a file, or is not closed in any of them. -/
def Lasting (path : String) (steps : List LedgerStep) : Prop :=
  (∃ target options, LedgerAddress.place path = .ok (.file target options)) ∨
    ∀ step ∈ steps, ∃ submission, step = .submitted submission

/-- The rows of a ledger are those of the submissions accepted so far, one each, in their order. -/
structure Recorded (accepted : List Submission) (rows : List VoteRow) : Prop where
  rows_eq : rows = accepted.mapIdx fun place submission => submission.row (place + 1)
  seqs : rows.map VoteRow.insertionSeq =
    (List.range accepted.length).map fun place : Nat => (place : Int) + 1
  indices : (rows.map VoteRow.index).Nodup
  public_keys : (rows.map VoteRow.publicKey).Nodup
  merkle_proofs : (rows.map VoteRow.merkleProof).Nodup

theorem recorded_of_sound {accepted : List Submission}
    (sound : VoteRows.Sound (VoteRows.rowsOf accepted)) :
    Recorded accepted (VoteRows.rowsOf accepted) where
  rows_eq := rfl
  seqs := by rw [sound.seqs, VoteRows.length_rows_of]
  indices := List.pairwise_map.mpr (sound.apart.imp fun apart => apart.1)
  public_keys := List.pairwise_map.mpr (sound.apart.imp fun apart => apart.2.1)
  merkle_proofs := List.pairwise_map.mpr (sound.apart.imp fun apart => apart.2.2)

/-- What a ledger has after some steps, and what it goes on having after further ones: the package of
every accepted submission, under its root and with its time in whole microseconds. -/
structure AppendOnly (path : String) (start : LedgerState) (first second : List LedgerStep) :
    Prop where
  recorded : ∀ ledger, (start.run path first).2.ledger = some ledger →
    Recorded (start.run path first).1 (ledger.rows (start.run path first).2.disk)
  kept : ∀ (place : Nat) (submission : Submission), (start.run path first).1[place]? = some submission →
    ∀ ledger, (start.run path (first ++ second)).2.ledger = some ledger →
      VoteRows.get (ledger.rows (start.run path (first ++ second)).2.disk)
        submission.package.index = submission.handedOut (place + 1)
  returned : ∀ (place : Nat) (submission : Submission),
    (start.run path first).1[place]? = some submission →
    submission.now.micros ≤ Instant.latestMicros → place + 1 ≤ maxRowInteger →
    ∃ stored, stored.root = submission.root ∧ stored.package = submission.package ∧
      stored.insertedAt.micros = submission.now.micros ∧
      ∀ ledger, (start.run path (first ++ second)).2.ledger = some ledger →
        VoteRows.get (ledger.rows (start.run path (first ++ second)).2.disk)
          submission.package.index = .ok stored

variable {disk later : Disk} {ledger : OpenLedger}

/-- An open ledger with the rows of accepted submissions, in the file that its path leads to or in
none. -/
inductive Keeping (path : String) (accepted : List Submission) (disk : Disk) (ledger : OpenLedger) :
    Prop where
  | onFile (target : String) (options : LedgerOptions) (place : Location) (file : FileId)
      (isFile : LedgerAddress.place path = .ok (.file target options))
      (state : OnFile target place file accepted ⟨disk, some ledger⟩)
  | fleeting (readOnly : Bool) (isFleeting : LedgerAddress.place path = .ok (.fleeting readOnly))
      (state : Fleeting accepted ⟨disk, some ledger⟩ ledger)

theorem Keeping.rows (keeping : Keeping path accepted disk ledger) :
    VoteRows.Sound (VoteRows.rowsOf accepted) ∧ ledger.rows disk = VoteRows.rowsOf accepted := by
  cases keeping with
  | onFile target options place file isFile state => exact ⟨state.sound, state.rows rfl⟩
  | fleeting readOnly isFleeting state => exact ⟨state.sound, state.rows⟩

theorem keeping_of_open {config : LedgerConfig} (formed : disk.WellFormed)
    (opened : Ledger.openAt disk path config = (.done ledger, later))
    (sound : VoteRows.Sound (VoteRows.rowsOf accepted))
    (rows : ledger.rows later = VoteRows.rowsOf accepted) : Keeping path accepted later ledger := by
  rcases Ledger.open_at_done formed opened with
    ⟨readOnly, made, placed, -, -, isLedger, isDisk⟩ | ⟨target, options, placed, visited, isOpened⟩
  · refine .fleeting readOnly placed ⟨rfl, ?_, ?_, rows, sound⟩
    · rw [isDisk, isLedger]
      simp [Disk.createUnnamed]
    · rw [isLedger]
  · refine .onFile target options _ ledger.file placed ⟨visited.formed,
      Ledger.ledger_place_extends visited.extended target, visited.named, rows, sound, ?_⟩
    intro other isOther
    obtain rfl := Option.some.inj isOther
    exact ⟨rfl, isOpened.toStands⟩

/-- The rows of an open ledger, wherever it lies, are those of its accepted submissions. -/
theorem run_rows {before disk : Disk} {config : LedgerConfig} {ledger : OpenLedger}
    (formed : before.WellFormed) (opened : Ledger.openAt before path config = (.done ledger, disk))
    (anew : ledger.rows disk = []) {steps : List LedgerStep} (lasting : Lasting path steps) :
    VoteRows.Sound (VoteRows.rowsOf (run path ⟨disk, some ledger⟩ steps).1) ∧
      ∀ last, (run path ⟨disk, some ledger⟩ steps).2.ledger = some last →
        last.rows (run path ⟨disk, some ledger⟩ steps).2.disk =
          VoteRows.rowsOf (run path ⟨disk, some ledger⟩ steps).1 := by
  have sound : VoteRows.Sound (VoteRows.rowsOf []) := VoteRows.sound_nil
  cases keeping_of_open formed opened sound anew with
  | onFile target options place file isFile onFile =>
      have after := onFile.run isFile steps
      rw [List.nil_append] at after
      exact ⟨after.sound, fun last isLast => after.rows isLast⟩
  | fleeting readOnly isFleeting fleeting =>
      have submitted : ∀ step ∈ steps, ∃ submission, step = .submitted submission := by
        rcases lasting with ⟨target, options, isFile⟩ | submitted
        · rw [isFleeting] at isFile
          cases isFile
        · exact submitted
      have after : (run path ⟨disk, some ledger⟩ steps).2.Fleeting
          ([] ++ (run path ⟨disk, some ledger⟩ steps).1) ledger := fleeting.run submitted
      rw [List.nil_append] at after
      refine ⟨after.sound, ?_⟩
      intro last isLast
      obtain rfl := Option.some.inj (after.isOpen.symm.trans isLast)
      exact after.rows

theorem append_only_of_lasting {before disk : Disk} {config : LedgerConfig} {ledger : OpenLedger}
    (formed : before.WellFormed) (opened : Ledger.openAt before path config = (.done ledger, disk))
    (anew : ledger.rows disk = []) {first second : List LedgerStep}
    (lasting : Lasting path (first ++ second)) :
    AppendOnly path ⟨disk, some ledger⟩ first second := by
  have early : Lasting path first :=
    lasting.imp_right fun submitted step member =>
      submitted step (List.mem_append_left second member)
  obtain ⟨sound, rows⟩ := run_rows formed opened anew early
  obtain ⟨laterSound, laterRows⟩ := run_rows formed opened anew lasting
  have kept {place : Nat} {submission : Submission}
      (isAt : (run path ⟨disk, some ledger⟩ first).1[place]? = some submission) {last : OpenLedger}
      (isLast : (run path ⟨disk, some ledger⟩ (first ++ second)).2.ledger = some last) :
      VoteRows.get (last.rows (run path ⟨disk, some ledger⟩ (first ++ second)).2.disk)
        submission.package.index = submission.handedOut (place + 1) := by
    rw [laterRows last isLast]
    apply laterSound.get_of_accepted
    rw [run_append, List.getElem?_append_left, isAt]
    exact (List.getElem?_eq_some_iff.mp isAt).1
  constructor
  · intro last isLast
    rw [rows last isLast]
    exact recorded_of_sound sound
  · intro place submission isAt last isLast
    exact kept isAt isLast
  · intro place submission isAt inTime integer
    obtain ⟨insertedAt, time, isHanded⟩ := Submission.handed_out_of_in_time inTime integer
    refine ⟨⟨submission.root, submission.package, insertedAt⟩, rfl, rfl, time, ?_⟩
    intro last isLast
    rw [kept isAt isLast, isHanded]

/-- A ledger in no file that is opened again has no rows. -/
theorem Passing.rows_of_reopened (passing : state.Passing) {readOnly : Bool}
    (isFleeting : LedgerAddress.place path = .ok (.fleeting readOnly)) {config : LedgerConfig}
    {ledger : OpenLedger} (isOpen : (state.step path (.reopened config)).2.ledger = some ledger) :
    ledger.rows (state.step path (.reopened config)).2.disk = [] := by
  have opened := open_at_of_reopened isOpen
  rw [passing.close_eq] at opened
  obtain ⟨made, -, -, isLedger, isDisk⟩ := Ledger.open_at_fleeting passing.formed isFleeting opened
  rw [OpenLedger.rows, Disk.rowsAt, isLedger, isDisk, Disk.content_create_unnamed_self]
  rfl

/-- A ledger that starts without rows only ever grows, whatever is submitted to it and however often
it is closed and opened again. One that lies in no file is gone once it is closed: opened again, it
starts without rows, and grows from there on. -/
theorem ledger_is_append_only {before disk : Disk} {config : LedgerConfig} {ledger : OpenLedger}
    (formed : before.WellFormed) (opened : Ledger.openAt before path config = (.done ledger, disk))
    (anew : ledger.rows disk = []) :
    (∀ first second, Lasting path (first ++ second) →
      AppendOnly path ⟨disk, some ledger⟩ first second) ∧
    ∀ readOnly, LedgerAddress.place path = .ok (.fleeting readOnly) → ∀ steps again last,
      (run path ⟨disk, some ledger⟩ (steps ++ [.reopened again])).2.ledger = some last →
        last.rows (run path ⟨disk, some ledger⟩ (steps ++ [.reopened again])).2.disk = [] ∧
        ∀ first second, Lasting path (first ++ second) →
          AppendOnly path (run path ⟨disk, some ledger⟩ (steps ++ [.reopened again])).2 first
            second := by
  refine ⟨fun first second lasting => append_only_of_lasting formed opened anew lasting, ?_⟩
  intro readOnly isFleeting steps again last isLast
  have passing := passing_of_opened formed isFleeting opened
  have left := passing.run isFleeting steps
  have reopened : (run path ⟨disk, some ledger⟩ (steps ++ [.reopened again])).2 =
      ((run path ⟨disk, some ledger⟩ steps).2.step path (.reopened again)).2 := by
    rw [run_append]
    rfl
  rw [reopened] at isLast ⊢
  have empty := left.rows_of_reopened isFleeting isLast
  refine ⟨empty, ?_⟩
  intro first second lasting
  have closedFormed : (run path ⟨disk, some ledger⟩ steps).2.close.WellFormed := by
    rw [left.close_eq]
    exact left.formed
  have grows := append_only_of_lasting closedFormed (open_at_of_reopened isLast) empty lasting
  rw [← isLast] at grows
  exact grows

/-- The package that was accepted first is submitted again after a restart, and is refused. -/
theorem reopened_ledger_is_append_only :
    ∃ ledger disk, Ledger.openAt Disk.nothing "votes.sqlite" .defaults = (.done ledger, disk) ∧
      ledger.rows disk = [] ∧
      (run "votes.sqlite" ⟨disk, some ledger⟩ [.submitted (VoteRows.numbered 1),
        .reopened .defaults, .submitted (VoteRows.numbered 1),
        .submitted (VoteRows.numbered 2)]).1.length = 2 ∧
      AppendOnly "votes.sqlite" ⟨disk, some ledger⟩ [.submitted (VoteRows.numbered 1)]
        [.reopened .defaults, .submitted (VoteRows.numbered 1),
          .submitted (VoteRows.numbered 2)] := by
  have computed : (Ledger.opened? Disk.nothing "votes.sqlite" .defaults).map (fun opened =>
      (opened.1.rows opened.2,
        (run "votes.sqlite" ⟨opened.2, some opened.1⟩ [.submitted (VoteRows.numbered 1),
          .reopened .defaults, .submitted (VoteRows.numbered 1),
          .submitted (VoteRows.numbered 2)]).1.length)) = some ([], 2) := by
    decide +kernel
  have isFile : LedgerAddress.place "votes.sqlite" = .ok (.file "votes.sqlite" .defaults) := by
    rfl
  obtain ⟨⟨ledger, disk⟩, found, both⟩ := Option.map_eq_some_iff.mp computed
  obtain ⟨anew, accepted⟩ := Prod.mk.inj both
  have opened := Ledger.opened_eq_some found
  exact ⟨ledger, disk, opened, anew, accepted,
    (ledger_is_append_only Disk.nothing_well_formed opened anew).1 _ _ (Or.inl ⟨_, _, isFile⟩)⟩

def memoryConfig : NodeConfig :=
  ⟨"file:.", .defaults, { LedgerConfig.defaults with fileName := "v?mode=memory" }⟩

def found? (state : LedgerState) (index : UInt64) : Option (Option StoredVotePackage) :=
  state.ledger.map fun ledger => (VoteRows.get (ledger.rows state.disk) index).toOption

/-- A ledger in memory accepts a package, is closed and opened again, and does not have it. -/
theorem memory_ledger_forgets :
    memoryConfig.validate = .ok () ∧
      ∃ ledger disk, Ledger.openAt Disk.nothing memoryConfig.ledgerPath memoryConfig.ledger =
          (.done ledger, disk) ∧
        ledger.rows disk = [] ∧
        ¬AppendOnly memoryConfig.ledgerPath ⟨disk, some ledger⟩ [.submitted (VoteRows.numbered 1)]
          [.reopened memoryConfig.ledger] := by
  refine ⟨rfl, ?_⟩
  have computed : (Ledger.opened? Disk.nothing memoryConfig.ledgerPath memoryConfig.ledger).map
      (fun opened => (opened.1.rows opened.2,
        (run memoryConfig.ledgerPath ⟨opened.2, some opened.1⟩ [.submitted (VoteRows.numbered 1)]).1,
        (run memoryConfig.ledgerPath ⟨opened.2, some opened.1⟩
          [.submitted (VoteRows.numbered 1), .reopened memoryConfig.ledger]).2.found? 1)) =
      some ([], [VoteRows.numbered 1], some none) := by
    decide +kernel
  obtain ⟨⟨ledger, disk⟩, found, all⟩ := Option.map_eq_some_iff.mp computed
  obtain ⟨anew, both⟩ := Prod.mk.inj all
  obtain ⟨accepted, forgotten⟩ := Prod.mk.inj both
  refine ⟨ledger, disk, Ledger.opened_eq_some found, anew, ?_⟩
  intro appendOnly
  obtain ⟨last, isLast, notFound⟩ := Option.map_eq_some_iff.mp forgotten
  have isAt : (run memoryConfig.ledgerPath ⟨disk, some ledger⟩
      [.submitted (VoteRows.numbered 1)]).1[0]? = some (VoteRows.numbered 1) := by
    rw [accepted]
    rfl
  obtain ⟨stored, -, -, -, isFound⟩ := appendOnly.returned 0 _ isAt (by decide) (by decide)
  have handedOut := congrArg Except.toOption (isFound last isLast)
  cases handedOut.symm.trans notFound

end LedgerState

end CensusNode
