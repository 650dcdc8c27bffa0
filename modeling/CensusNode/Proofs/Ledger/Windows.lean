import CensusNode.Proofs.Ledger.NewestFirst

/-!
Pages of a ledger. A page is the beginning of what the listing of a root has below a position. The
position comes out of a cursor, which need not have been issued by the ledger nor name any entry.
-/

namespace CensusNode

def PageCursor.position (cursor : PageCursor) : Int ×ₗ Int :=
  toLex (cursor.insertedAt.toInt, cursor.insertionSeq.toInt)

/-- A page shows the first entries of those below its start, and its cursor stands for the last entry
that it shows. -/
structure IsWindow (root : CensusRoot) (below : List Entry) (size : Nat) (page : VotePage) :
    Prop where
  shown : List.Forall₂ Entry.IsReadAs (below.take size) page.packages
  more : page.nextCursor.isSome ↔ size < below.length
  next : ∀ text, page.nextCursor = some text →
    ∃ last cursor, (below.take size).getLast? = some last ∧
      PageCursor.decode text root = .ok cursor ∧ cursor.position = last.position

/-- How many rows the database is asked for: one more than a page shows, as far as its integers
go. -/
def fetchLimit (size : Nat) : Nat := min (min size maxRowInteger + 1) maxRowInteger

structure PageOutcome (root : CensusRoot) (below : List Entry) (size : Nat)
    (result : Except LedgerError VotePage) : Prop where
  window : (∀ entry ∈ below.take (fetchLimit size), entry.number ≤ maxRowInteger) →
    ∃ page, result = .ok page ∧ IsWindow root below size page
  beyond : (∃ entry ∈ below.take (fetchLimit size), maxRowInteger < entry.number) →
    result = .error (.database .sequenceNotInteger)

theorem LedgerConfig.fetch_limit_eq {config : LedgerConfig} (valid : config.validate = .ok ())
    (limit : Nat) :
    fetchLimit (config.clampPageSize limit) = config.clampPageSize limit + 1 := by
  have bound := Nat.le_trans (clamp_page_size_le valid limit) (page_sizes_of_valid valid).2.2
  unfold fetchLimit maxRowInteger
  unfold pageSizeLimit at bound
  omega

namespace VoteRows

variable {config : LedgerConfig} {rows : List VoteRow} {accepted : List Submission}
  {root : CensusRoot} {order below : List Entry} {cursor : Option String} {start : Int × Int}
  {limit : Nat}

theorem start_of_cursor_iff {text : String} :
    startOf root (some text) = .ok start ↔
      ∃ cursor, PageCursor.decode text root = .ok cursor ∧ cursor.position = toLex start := by
  rw [startOf]
  cases PageCursor.decode text root with
  | error fault => simp
  | ok cursor => simp [PageCursor.position]

theorem window_of_listing (sound : Sound (rowsOf accepted))
    (isListing : IsListing accepted root order) (start : Int × Int) :
    window (rowsOf accepted) root start.1 start.2 =
      (order.filter fun entry => entry.position < toLex start).map Entry.row := by
  rw [window, isListing.rows sound, List.filter_map]
  congr 1
  apply List.filter_congr
  intro entry _
  rw [Bool.eq_iff_iff, decide_eq_true_eq]
  exact entry.is_below_iff start.1 start.2

theorem page_of_unreadable (started : startOf root cursor = .ok start) {error : LedgerError}
    (unreadable : readable ((window rows root start.1 start.2).take
      (config.clampPageSize limit + 1)) = .error error) :
    page config rows root cursor limit = .error error := by
  rw [window] at unreadable
  simp only [page, started, bind, Except.bind, unreadable]

theorem Sound.cursor_after_entry (sound : Sound (rowsOf accepted)) {entry : Entry}
    (member : entry ∈ entriesUnder accepted root) (integer : entry.number ≤ maxRowInteger) :
    ∃ cursor, PageCursor.decode (cursorAfter root entry.row) root = .ok cursor ∧
      cursor.position = entry.position := by
  have inRows := (row_of_mem_entries member).1
  have hasInteger : entry.row.hasIntegerSeq = true := by
    rw [VoteRow.hasIntegerSeq, decide_eq_true_eq]
    exact Int.ofNat_le.mpr integer
  exact start_of_cursor_iff.mp (sound.start_of_cursor_after root inRows hasInteger)

theorem Sound.exists_window (sound : Sound (rowsOf accepted)) (valid : config.validate = .ok ())
    (started : startOf root cursor = .ok start)
    (isWindow : window (rowsOf accepted) root start.1 start.2 = below.map Entry.row)
    (readable : ∀ entry ∈ below, entry ∈ entriesUnder accepted root ∧
      entry.time ≤ Instant.latestMicros)
    (numbers : ∀ entry ∈ below.take (config.clampPageSize limit + 1),
      entry.number ≤ maxRowInteger) :
    ∃ result, page config (rowsOf accepted) root cursor limit = .ok result ∧
      IsWindow root below (config.clampPageSize limit) result := by
  obtain ⟨packages, read, allRead⟩ :=
    exists_all_read fun entry (member : entry ∈ below.take (config.clampPageSize limit)) =>
      (readable entry (List.mem_of_mem_take member)).2
  have integers : Integers ((window (rowsOf accepted) root start.1 start.2).take
      (config.clampPageSize limit + 1)) := by
    rw [isWindow, ← List.map_take]
    exact (integers_iff _).mpr numbers
  have found : storedAll ((window (rowsOf accepted) root start.1 start.2).take
      (config.clampPageSize limit)) = .ok packages := by
    rw [isWindow, ← List.map_take]
    exact read
  -- Only a page that is followed by another one has a cursor, and it then shows at least one entry.
  by_cases more : config.clampPageSize limit < below.length
  · obtain ⟨-, last, -, -, -, -, -, isLast⟩ :=
      exists_last_shown (config.clamp_page_size_pos valid limit) more
    have member := List.mem_of_getLast? isLast
    have inFetched := (List.take_sublist_take_left (Nat.le_succ _)).subset member
    obtain ⟨next, decodes, position⟩ := sound.cursor_after_entry
      (readable last (List.mem_of_mem_take member)).1 (numbers last inFetched)
    refine ⟨⟨packages, some (cursorAfter root last.row)⟩,
      (page_eq_ok_iff started).mpr ⟨integers, found, ?_⟩, allRead, ?_, ?_⟩
    · rw [isWindow, List.length_map, if_pos more, ← List.map_take, List.getLast?_map, isLast]
      rfl
    · simpa using more
    · intro text isNext
      rw [← Option.some.inj isNext]
      exact ⟨last, next, isLast, decodes, position⟩
  · refine ⟨⟨packages, none⟩, (page_eq_ok_iff started).mpr ⟨integers, found, ?_⟩, allRead, ?_, ?_⟩
    · rw [isWindow, List.length_map, if_neg more]
    · simpa using more
    · intro text isNext
      cases isNext

theorem Sound.page_of_window (sound : Sound (rowsOf accepted)) (valid : config.validate = .ok ())
    (started : startOf root cursor = .ok start)
    (isWindow : window (rowsOf accepted) root start.1 start.2 = below.map Entry.row)
    (readable : ∀ entry ∈ below, entry ∈ entriesUnder accepted root ∧
      entry.time ≤ Instant.latestMicros) :
    PageOutcome root below (config.clampPageSize limit)
      (page config (rowsOf accepted) root cursor limit) := by
  have fetched := LedgerConfig.fetch_limit_eq valid limit
  constructor
  · intro numbers
    rw [fetched] at numbers
    exact sound.exists_window valid started isWindow readable numbers
  · intro beyond
    rw [fetched] at beyond
    apply page_of_unreadable started
    rw [isWindow, ← List.map_take]
    exact readable_of_beyond beyond

end VoteRows

structure PagesAreWindows (config : LedgerConfig) (rows : List VoteRow) (root : CensusRoot)
    (order : List Entry) : Prop where
  size : ∀ limit, 1 ≤ config.clampPageSize limit ∧
    config.clampPageSize limit ≤ config.maxPageSize
  first : ∀ limit, PageOutcome root order (config.clampPageSize limit)
    (VoteRows.page config rows root none limit)
  after : ∀ limit text cursor, PageCursor.decode text root = .ok cursor →
    PageOutcome root (order.filter fun entry => entry.position < cursor.position)
      (config.clampPageSize limit) (VoteRows.page config rows root (some text) limit)
  refused : ∀ limit text fault, PageCursor.decode text root = .error fault →
    VoteRows.page config rows root (some text) limit = .error (.invalidCursor fault)

namespace LedgerState

variable {accepted : List Submission} {disk : Disk} {ledger : OpenLedger}

/-- Every page of a ledger is a window of the listing of its root. -/
theorem pages_are_windows (reached : Reached accepted disk ledger) (inTime : InTime accepted)
    {config : LedgerConfig} (valid : config.validate = .ok ()) (root : CensusRoot) :
    ∃ order, IsListing accepted root order ∧
      PagesAreWindows config (ledger.rows disk) root order := by
  obtain ⟨sound, rows⟩ := reached.rows
  obtain ⟨order, isListing⟩ := exists_listing accepted root
  have readable := isListing.in_time inTime
  rw [rows]
  refine ⟨order, isListing, ?_, ?_, ?_, ?_⟩
  · intro limit
    exact ⟨config.clamp_page_size_pos valid limit, config.clamp_page_size_le valid limit⟩
  · intro limit
    have whole : VoteRows.window (VoteRows.rowsOf accepted) root maxRowInteger maxRowInteger =
        order.map Entry.row := by
      rw [sound.window_top, isListing.rows sound]
    exact sound.page_of_window valid rfl whole readable
  · intro limit text cursor decodes
    have started := VoteRows.start_of_cursor_iff.mpr ⟨cursor, decodes, rfl⟩
    exact sound.page_of_window valid started (VoteRows.window_of_listing sound isListing _)
      fun entry member => readable entry (List.mem_of_mem_filter member)
  · intro limit text fault undecoded
    simp only [VoteRows.page, VoteRows.startOf, undecoded, bind, Except.bind]

theorem unsteady_pages_are_windows :
    ∃ disk ledger, Reached [aSecondLate 1, VoteRows.numbered 2] disk ledger ∧
      InTime [aSecondLate 1, VoteRows.numbered 2] ∧ LedgerConfig.defaults.validate = .ok () ∧
      ∃ order, IsListing [aSecondLate 1, VoteRows.numbered 2] VoteRows.someRoot order ∧
        PagesAreWindows .defaults (ledger.rows disk) VoteRows.someRoot order := by
  obtain ⟨disk, ledger, reached, inTime⟩ := exists_stepped_back
  have valid : LedgerConfig.defaults.validate = .ok () := by
    decide
  exact ⟨disk, ledger, reached, inTime, valid, pages_are_windows reached inTime valid _⟩

end LedgerState

end CensusNode
