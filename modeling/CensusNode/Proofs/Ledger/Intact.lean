import CensusNode.Proofs.Ledger.Windows
import Mathlib.Algebra.Order.BigOperators.Group.List
import Mathlib.Algebra.Order.Ring.Nat

/-!
Stored packages are read back intact. The rows of a ledger are those of accepted submissions, and of
such a row nothing that reading looks at can be amiss: the root and the signature have their lengths,
the index is not negative, and the time is that of an instant. Only the number of a row could be too
large for the database to hand the row out, and a database is full long before.
-/

namespace CensusNode

/-- The bytes that a row takes at least: those of its byte strings. -/
def VoteRow.size (row : VoteRow) : Nat :=
  row.root.length + row.signature.length + row.publicKey.length + row.merkleProof.length +
    row.vote.length

/-- A database is at most 4294967294 pages of 65536 bytes. -/
def largestDatabase : Nat := 4294967294 * 65536

namespace VoteRows

def FitDatabase (rows : List VoteRow) : Prop := (rows.map VoteRow.size).sum ≤ largestDatabase

instance (rows : List VoteRow) : Decidable (FitDatabase rows) := inferInstanceAs (Decidable (_ ≤ _))

theorem IsWritten.le_size {row : VoteRow} (written : IsWritten row) : 96 ≤ row.size := by
  obtain ⟨root, package, now, -, same⟩ := written
  have rootLength : row.root.length = 32 := by
    rw [same]
    exact root.digest.length_eq
  have signatureLength : row.signature.length = 64 := by
    rw [same]
    exact package.signature.length_eq
  unfold VoteRow.size
  omega

/-- A database is full long before the numbers of its rows run out. -/
theorem Sound.length_lt {rows : List VoteRow} (sound : Sound rows) (fit : FitDatabase rows) :
    rows.length < maxRowInteger := by
  have least : ∀ size ∈ rows.map VoteRow.size, 96 ≤ size := by
    rw [List.forall_mem_map]
    exact fun row member => (sound.written row member).le_size
  have sizes := List.card_nsmul_le_sum _ 96 least
  rw [List.length_map, nsmul_eq_mul, Nat.cast_id] at sizes
  unfold FitDatabase largestDatabase at fit
  unfold maxRowInteger
  omega

end VoteRows

theorem Entry.number_le {accepted : List Submission} {entry : Entry}
    (member : entry ∈ entriesOf accepted) : entry.number ≤ accepted.length := by
  obtain ⟨place, isAt, isNumber⟩ := mem_entries_iff.mp member
  obtain ⟨inRange, -⟩ := List.getElem?_eq_some_iff.mp isAt
  omega

/-- A stored package is the submission as it was handed in, its time rounded down to a whole
microsecond. -/
structure Submission.IsKeptAs (submission : Submission) (stored : StoredVotePackage) : Prop where
  root : stored.root = submission.root
  package : stored.package = submission.package
  time : stored.insertedAt.nanoseconds = submission.now.nanoseconds / 1000 * 1000
  /-- It is no leap second, so that the nanoseconds leave no doubt about the instant. -/
  usual : stored.insertedAt.nanos < 1000000000

theorem Entry.IsReadAs.kept {entry : Entry} {stored : StoredVotePackage}
    (readAs : entry.IsReadAs stored) : entry.submission.IsKeptAs stored := by
  obtain ⟨sameRoot, samePackage, isInstant⟩ := readAs
  obtain ⟨time, usual⟩ := Instant.nanoseconds_of_of_micros isInstant
  exact ⟨sameRoot, samePackage, time, usual⟩

/-- No question to a ledger ends at a row that does not stand for a package. -/
structure NeverCorrupt (rows : List VoteRow) : Prop where
  get : ∀ index fault, VoteRows.get rows index ≠ .error (.corruptRow fault)
  by_root : ∀ root fault, VoteRows.byRoot rows root ≠ .error (.corruptRow fault)
  page : ∀ config root cursor limit fault,
    VoteRows.page config rows root cursor limit ≠ .error (.corruptRow fault)

/-- Whatever a ledger is asked for, it shows what was accepted as it was handed in. All that can go
wrong is that there is no package with the index, or that the cursor is none for the root. -/
structure ReadsIntact (accepted : List Submission) (rows : List VoteRow) : Prop where
  found : ∀ submission ∈ accepted,
    ∃ stored, VoteRows.get rows submission.package.index = .ok stored ∧ submission.IsKeptAs stored
  absent : ∀ index, (∀ submission ∈ accepted, submission.package.index ≠ index) →
    VoteRows.get rows index = .error (.notFound index)
  listed : ∀ root, ∃ shown : List Submission,
    shown.Perm (accepted.filter fun submission => submission.root = root) ∧
      VoteRows.byRoot rows root = .ok (shown.map Submission.package)
  paged : ∀ config root cursor limit,
    (∃ (shown : List Submission) (page : VotePage),
      VoteRows.page config rows root cursor limit = .ok page ∧
        List.Forall₂ Submission.IsKeptAs shown page.packages ∧
        ∀ submission ∈ shown, submission ∈ accepted ∧ submission.root = root) ∨
    ∃ text fault, cursor = some text ∧ PageCursor.decode text root = .error fault ∧
      VoteRows.page config rows root cursor limit = .error (.invalidCursor fault)

namespace VoteRows

variable {accepted : List Submission} {root : CensusRoot} {order below : List Entry}
  {cursor : Option String} {start : Int × Int}

/-- A submission is handed out as it was accepted, or has a number that the database cannot read. -/
theorem Sound.get_cases (sound : Sound (rowsOf accepted)) {submission : Submission}
    (member : submission ∈ accepted) (inTime : submission.now.micros ≤ Instant.latestMicros) :
    (∃ stored, get (rowsOf accepted) submission.package.index = .ok stored ∧
      submission.IsKeptAs stored) ∨
    (maxRowInteger < accepted.length ∧
      get (rowsOf accepted) submission.package.index = .error (.database .sequenceNotInteger)) := by
  obtain ⟨place, isAt⟩ := List.mem_iff_getElem?.mp member
  have inRange := (List.getElem?_eq_some_iff.mp isAt).1
  rw [sound.get_of_accepted isAt]
  by_cases beyond : maxRowInteger < place + 1
  · exact Or.inr ⟨by omega, if_pos beyond⟩
  · obtain ⟨stored, -, readAs⟩ := Entry.exists_read ⟨submission, place + 1⟩ inTime
    have handedOut := (handed_out_eq_ok_iff ⟨submission, place + 1⟩).mpr
      ⟨Nat.le_of_not_lt beyond, readAs⟩
    exact Or.inl ⟨stored, handedOut, readAs.kept⟩

theorem get_of_absent {index : UInt64}
    (absent : ∀ submission ∈ accepted, submission.package.index ≠ index) :
    get (rowsOf accepted) index = .error (.notFound index) := by
  have noRow : (rowsOf accepted).find? (fun row => row.index = (index.toNat : Int)) = none := by
    rw [List.find?_eq_none]
    intro row member same
    obtain ⟨place, inRange, isRow⟩ := List.mem_mapIdx.mp member
    rw [← isRow] at same
    exact absent _ (List.getElem_mem inRange)
      (UInt64.toNat_inj.mp (Int.ofNat.inj (of_decide_eq_true same)))
  simp only [get, noRow]

theorem Sound.by_root_cases (sound : Sound (rowsOf accepted)) (inTime : InTime accepted)
    (root : CensusRoot) :
    (∃ shown : List Submission,
      shown.Perm (accepted.filter fun submission => submission.root = root) ∧
        byRoot (rowsOf accepted) root = .ok (shown.map Submission.package)) ∨
    (maxRowInteger < accepted.length ∧
      byRoot (rowsOf accepted) root = .error (.database .sequenceNotInteger)) := by
  by_cases beyond : ∃ entry ∈ entriesUnder accepted root, maxRowInteger < entry.number
  · obtain ⟨entry, member, large⟩ := beyond
    have numbered := Entry.number_le (mem_entries_under_iff.mp member).1
    exact Or.inr ⟨by omega, by_root_of_beyond sound ⟨entry, member, large⟩⟩
  · obtain ⟨order, isListing⟩ := exists_listing accepted root
    have readable : ∀ entry ∈ entriesUnder accepted root, entry.IsReadable := by
      intro entry member
      exact ⟨inTime _ (submission_mem member),
        Nat.le_of_not_lt fun large => beyond ⟨entry, member, large⟩⟩
    refine Or.inl ⟨order.map Entry.submission, ?_, ?_⟩
    · rw [← entries_under_submissions]
      exact isListing.complete.map _
    · rw [by_root_of_listing sound isListing readable, List.map_map]
      rfl

/-- A page whose rows can be read shows the first entries of its window, whatever its size. -/
theorem page_of_entries {config : LedgerConfig} {limit : Nat} {rows : List VoteRow}
    (started : startOf root cursor = .ok start)
    (isWindow : window rows root start.1 start.2 = below.map Entry.row)
    (inTime : ∀ entry ∈ below, entry.time ≤ Instant.latestMicros)
    (numbers : ∀ entry ∈ below.take (config.clampPageSize limit + 1),
      entry.number ≤ maxRowInteger) :
    ∃ result, page config rows root cursor limit = .ok result ∧
      List.Forall₂ Entry.IsReadAs (below.take (config.clampPageSize limit)) result.packages := by
  obtain ⟨packages, read, allRead⟩ :=
    exists_all_read fun entry (member : entry ∈ below.take (config.clampPageSize limit)) =>
      inTime entry (List.mem_of_mem_take member)
  refine ⟨⟨packages, _⟩, (page_eq_ok_iff started).mpr ⟨?_, ?_, rfl⟩, allRead⟩
  · rw [isWindow, ← List.map_take]
    exact (integers_iff _).mpr numbers
  · rw [isWindow, ← List.map_take]
    exact read

theorem Sound.page_of_started (sound : Sound (rowsOf accepted)) (inTime : InTime accepted)
    (config : LedgerConfig) (started : startOf root cursor = .ok start) (limit : Nat) :
    (∃ (shown : List Submission) (result : VotePage),
      page config (rowsOf accepted) root cursor limit = .ok result ∧
        List.Forall₂ Submission.IsKeptAs shown result.packages ∧
        ∀ submission ∈ shown, submission ∈ accepted ∧ submission.root = root) ∨
    (maxRowInteger < accepted.length ∧
      page config (rowsOf accepted) root cursor limit =
        .error (.database .sequenceNotInteger)) := by
  obtain ⟨order, isListing⟩ := exists_listing accepted root
  have isWindow := window_of_listing sound isListing start
  generalize inOrder : order.filter (fun entry => entry.position < toLex start) = below at isWindow
  have under : ∀ entry ∈ below, entry ∈ entriesUnder accepted root := by
    intro entry member
    rw [← inOrder] at member
    exact isListing.mem_iff.mp (List.mem_of_mem_filter member)
  by_cases beyond :
      ∃ entry ∈ below.take (config.clampPageSize limit + 1), maxRowInteger < entry.number
  · obtain ⟨entry, member, large⟩ := beyond
    have numbered :=
      Entry.number_le (mem_entries_under_iff.mp (under entry (List.mem_of_mem_take member))).1
    refine Or.inr ⟨by omega, page_of_unreadable started ?_⟩
    rw [isWindow, ← List.map_take]
    exact readable_of_beyond ⟨entry, member, large⟩
  · obtain ⟨result, shown, allRead⟩ := page_of_entries started isWindow
      (fun entry member => inTime _ (submission_mem (under entry member)))
      fun entry member => Nat.le_of_not_lt fun large => beyond ⟨entry, member, large⟩
    refine Or.inl ⟨(below.take (config.clampPageSize limit)).map Entry.submission, result, shown,
      ?_, ?_⟩
    · rw [List.forall₂_map_left_iff]
      exact allRead.imp fun entry stored readAs => readAs.kept
    · rw [List.forall_mem_map]
      intro entry member
      have inRoot := under entry (List.mem_of_mem_take member)
      exact ⟨submission_mem inRoot, (mem_entries_under_iff.mp inRoot).2⟩

theorem page_of_refused {config : LedgerConfig} {rows : List VoteRow} {limit : Nat}
    {error : LedgerError} (refused : startOf root cursor = .error error) :
    page config rows root cursor limit = .error error := by
  simp only [page, refused, bind, Except.bind]

theorem start_cases (root : CensusRoot) (cursor : Option String) :
    (∃ start, startOf root cursor = .ok start) ∨
      ∃ text fault, cursor = some text ∧ PageCursor.decode text root = .error fault ∧
        startOf root cursor = .error (.invalidCursor fault) := by
  cases cursor with
  | none => exact Or.inl ⟨_, rfl⟩
  | some text =>
      cases decoded : PageCursor.decode text root with
      | ok cursor => exact Or.inl ⟨_, start_of_cursor_iff.mpr ⟨cursor, decoded, rfl⟩⟩
      | error fault => exact Or.inr ⟨text, fault, rfl, decoded, by simp only [startOf, decoded]⟩

theorem Sound.never_corrupt (sound : Sound (rowsOf accepted)) (inTime : InTime accepted) :
    NeverCorrupt (rowsOf accepted) := by
  constructor
  · intro index fault corrupt
    by_cases present : ∃ submission ∈ accepted, submission.package.index = index
    · obtain ⟨submission, member, same⟩ := present
      rw [← same] at corrupt
      rcases sound.get_cases member (inTime _ member) with ⟨stored, found, -⟩ | ⟨-, found⟩ <;>
        rw [found] at corrupt <;> cases corrupt
    · rw [get_of_absent fun submission member same => present ⟨submission, member, same⟩] at corrupt
      cases corrupt
  · intro root fault corrupt
    rcases sound.by_root_cases inTime root with ⟨shown, -, listed⟩ | ⟨-, listed⟩ <;>
      rw [listed] at corrupt <;> cases corrupt
  · intro config root cursor limit fault corrupt
    rcases start_cases root cursor with ⟨start, started⟩ | ⟨text, reason, -, -, refused⟩
    · rcases sound.page_of_started inTime config started limit with
        ⟨shown, result, paged, -⟩ | ⟨-, paged⟩ <;>
        rw [paged] at corrupt <;> cases corrupt
    · rw [page_of_refused refused] at corrupt
      cases corrupt

theorem Sound.reads_intact (sound : Sound (rowsOf accepted)) (inTime : InTime accepted)
    (fit : FitDatabase (rowsOf accepted)) : ReadsIntact accepted (rowsOf accepted) := by
  have room := sound.length_lt fit
  rw [length_rows_of] at room
  have noRoom : ¬maxRowInteger < accepted.length := Nat.not_lt.mpr (Nat.le_of_lt room)
  constructor
  · intro submission member
    exact (sound.get_cases member (inTime _ member)).resolve_right fun beyond => noRoom beyond.1
  · exact fun index absent => get_of_absent absent
  · intro root
    exact (sound.by_root_cases inTime root).resolve_right fun beyond => noRoom beyond.1
  · intro config root cursor limit
    rcases start_cases root cursor with ⟨start, started⟩ | ⟨text, fault, isText, undecoded, refused⟩
    · exact Or.inl ((sound.page_of_started inTime config started limit).resolve_right
        fun beyond => noRoom beyond.1)
    · exact Or.inr ⟨text, fault, isText, undecoded, page_of_refused refused⟩

end VoteRows

namespace LedgerState

variable {accepted : List Submission} {disk : Disk} {ledger : OpenLedger}

/-- A ledger that was filled by storing packages has no corrupt rows, and as long as its database can
hold what was stored, everything is read back from it as it was stored. -/
theorem stored_packages_read_back (reached : Reached accepted disk ledger)
    (inTime : InTime accepted) :
    NeverCorrupt (ledger.rows disk) ∧
      (VoteRows.FitDatabase (ledger.rows disk) → ReadsIntact accepted (ledger.rows disk)) := by
  obtain ⟨sound, rows⟩ := reached.rows
  rw [rows]
  exact ⟨sound.never_corrupt inTime, sound.reads_intact inTime⟩

def emptyBefore1970 : Submission where
  root := VoteRows.someRoot
  package := ⟨⟨List.replicate 64 0, rfl⟩, 0, [], [], []⟩
  now := ⟨-1, 999999999, by decide, by decide, by decide, by decide⟩

theorem empty_package_reads_back :
    ∃ disk ledger, Reached [emptyBefore1970, VoteRows.numbered 2] disk ledger ∧
      InTime [emptyBefore1970, VoteRows.numbered 2] ∧
      VoteRows.FitDatabase (ledger.rows disk) ∧
      NeverCorrupt (ledger.rows disk) ∧
      ReadsIntact [emptyBefore1970, VoteRows.numbered 2] (ledger.rows disk) := by
  obtain ⟨disk, ledger, reached, -⟩ :=
    exists_reached [emptyBefore1970, VoteRows.numbered 2] (by decide)
      (by simp [Submission.Distinct, emptyBefore1970, VoteRows.numbered])
  have inTime : InTime [emptyBefore1970, VoteRows.numbered 2] := by
    simp only [InTime, List.forall_mem_cons]
    decide
  have fit : VoteRows.FitDatabase (ledger.rows disk) := by
    rw [reached.rows.2]
    decide
  obtain ⟨never, intact⟩ := stored_packages_read_back reached inTime
  exact ⟨disk, ledger, reached, inTime, fit, never, intact fit⟩

end LedgerState

end CensusNode
