import CensusNode.Proofs.Ledger.Windows

/-!
What walks return. A walk that reaches its last page has returned entries of the ledger in descending
order of time and number, none of them twice, and among them all that were there when it set out,
whatever was submitted on the way. If nothing was, it has returned the listing of its root.
-/

namespace CensusNode

/-- What the pages of a walk over a root return, when some submissions were accepted before it set out
and some when it ends. -/
structure ReturnsOnce (accepted later : List Submission) (root : CensusRoot)
    (pages : List (List StoredVotePackage)) : Prop where
  each_once : ∀ entry ∈ entriesUnder accepted root,
    ∃ stored, entry.IsReadAs stored ∧ pages.flatten.count stored = 1
  /-- No package is returned twice, whenever it was submitted. -/
  none_twice : (pages.flatten.map fun stored => stored.package.index).Nodup
  /-- The pages one after another are entries that there are in the end, and descend strictly. -/
  descending : ∃ order : List Entry, order.Subperm (entriesUnder later root) ∧
    (order.Pairwise fun entry next => next.position < entry.position) ∧
    List.Forall₂ Entry.IsReadAs order pages.flatten

/-- Paging through a root neither loses nor repeats anything, and without arrivals it gives out the
listing. -/
structure PagesExactly (config : LedgerConfig) (accepted : List Submission) (rows : List VoteRow)
    (root : CensusRoot) : Prop where
  /-- A walk that reaches a page without a cursor, whatever arrives on the way. -/
  walk : ∀ requests pages, VoteRows.Walk config root rows none requests pages →
    ∃ more, VoteRows.rowsAfter rows requests = VoteRows.rowsOf (accepted ++ more) ∧
      ReturnsOnce accepted (accepted ++ more) root pages
  quiet_walk : ∀ limits count pages,
    VoteRows.Walk config root rows none (VoteRows.quietRequests limits count) pages →
      VoteRows.byRoot rows root = .ok (pages.flatten.map StoredVotePackage.package)
  quiet_walk_length : ∀ limit count pages,
    VoteRows.Walk config root rows none (VoteRows.quietRequests (fun _ => limit) count) pages →
      count = VoteRows.pagesNeeded pages.flatten.length (config.clampPageSize limit)
  /-- Without arrivals the walk ends, whatever the limits are, unless an entry of the root was written
  in a leap second after the very last second or under a number beyond the integers. -/
  quiet_walk_ends : ∀ limits,
    (∃ count pages,
      VoteRows.Walk config root rows none (VoteRows.quietRequests limits count) pages) ↔
        ∀ entry ∈ entriesUnder accepted root, entry.IsReadable

section

variable {accepted : List Submission} {root : CensusRoot}

theorem Entry.read_as_of_stored {entry : Entry} {stored : StoredVotePackage}
    (found : entry.row.stored = .ok stored) : entry.IsReadAs stored := by
  have read := VoteRows.stored_row_of entry.submission.root entry.package entry.submission.now
    entry.number
  have isRow : entry.row = VoteRows.rowOf entry.submission.root entry.package entry.submission.now
      entry.number := rfl
  rw [← isRow, found] at read
  split at read
  · cases read
  · rename_i insertedAt isInstant
    rw [Except.ok.inj read]
    exact ⟨rfl, rfl, isInstant⟩

theorem all_read_of_stored_all {order : List Entry} {packages : List StoredVotePackage}
    (found : VoteRows.storedAll (order.map Entry.row) = .ok packages) :
    List.Forall₂ Entry.IsReadAs order packages := by
  induction order generalizing packages with
  | nil =>
      cases found
      exact .nil
  | cons entry rest induction =>
      obtain ⟨first, others, isFirst, areOthers, same⟩ := VoteRows.stored_all_cons_iff.mp found
      rw [same]
      exact .cons (Entry.read_as_of_stored isFirst) (induction areOthers)

theorem exists_entries {entries : List Entry} {rows : List VoteRow}
    (within : rows ⊆ entries.map Entry.row) :
    ∃ order : List Entry, order.map Entry.row = rows ∧ order ⊆ entries := by
  induction rows with
  | nil => exact ⟨[], rfl, List.nil_subset _⟩
  | cons row rest induction =>
      rw [List.cons_subset] at within
      obtain ⟨entry, member, isRow⟩ := List.mem_map.mp within.1
      obtain ⟨order, areRest, others⟩ := induction within.2
      exact ⟨entry :: order, by rw [List.map_cons, isRow, areRest],
        List.cons_subset.mpr ⟨member, others⟩⟩

theorem exists_descending_entries {entries : List Entry} {rows : List VoteRow}
    (within : rows ⊆ entries.map Entry.row) (ordered : rows.Pairwise VoteRow.Above) :
    ∃ order : List Entry, order.map Entry.row = rows ∧ order.Subperm entries ∧
      order.Pairwise fun entry next => next.position < entry.position := by
  obtain ⟨order, areRows, inEntries⟩ := exists_entries within
  rw [← areRows, List.pairwise_map] at ordered
  have descends : order.Pairwise fun entry next => next.position < entry.position :=
    ordered.imp fun above => (Entry.above_iff _ _).mp above
  have distinct : order.Nodup :=
    descends.imp fun below => ne_of_apply_ne Entry.position below.ne'
  exact ⟨order, areRows, distinct.subperm inEntries, descends⟩

theorem packages_apart {packages : List StoredVotePackage}
    (numbers : (packages.map fun stored => (stored.package.index.toNat : Int)).Nodup) :
    (packages.map fun stored => stored.package.index).Nodup ∧ packages.Nodup := by
  have indices : (packages.map fun stored => stored.package.index).Nodup := by
    apply List.Nodup.of_map fun index : UInt64 => (index.toNat : Int)
    rw [List.map_map]
    exact numbers
  exact ⟨indices, indices.of_map⟩

namespace VoteRows

theorem Sound.exists_accepted (sound : Sound (rowsOf accepted)) (submissions : List Submission) :
    ∃ more, submitAll (rowsOf accepted) submissions = rowsOf (accepted ++ more) ∧
      Sound (rowsOf (accepted ++ more)) := by
  induction submissions generalizing accepted with
  | nil =>
      refine ⟨[], ?_⟩
      rw [List.append_nil]
      exact ⟨rfl, sound⟩
  | cons submission rest induction =>
      rw [submitAll, List.foldl_cons, ← submitAll, VoteRows.submit]
      cases stored : store (rowsOf accepted) submission.root submission.package submission.now with
      | error error => exact induction sound
      | ok rows =>
          obtain ⟨isGrown, grown⟩ := store_rows_of sound stored
          obtain ⟨more, isMore, soundMore⟩ := induction grown
          rw [List.append_assoc] at isMore soundMore
          simp only [isGrown]
          exact ⟨[submission] ++ more, isMore, soundMore⟩

theorem Sound.exists_accepted_after (sound : Sound (rowsOf accepted))
    (requests : List PageRequest) :
    ∃ more, rowsAfter (rowsOf accepted) requests = rowsOf (accepted ++ more) ∧
      Sound (rowsOf (accepted ++ more)) := by
  induction requests generalizing accepted with
  | nil =>
      refine ⟨[], ?_⟩
      rw [List.append_nil]
      exact ⟨rfl, sound⟩
  | cons request rest induction =>
      obtain ⟨first, isFirst, soundFirst⟩ := sound.exists_accepted request.arrivals
      obtain ⟨more, isMore, soundMore⟩ := induction soundFirst
      rw [List.append_assoc] at isMore soundMore
      refine ⟨first ++ more, ?_, soundMore⟩
      rw [rowsAfter, List.foldl_cons, ← rowsAfter, isFirst, isMore]

theorem window_entries {start : Int × Int} {row : VoteRow}
    (member : row ∈ window (rowsOf accepted) root start.1 start.2) :
    row ∈ (entriesUnder accepted root).map Entry.row := by
  rw [← entries_under_rows, List.mem_filter, decide_eq_true_eq]
  exact (mem_window_iff.mp member).1

theorem Walk.returns_once {config : LedgerConfig} (valid : config.validate = .ok ())
    {requests : List PageRequest} {pages : List (List StoredVotePackage)}
    (walk : Walk config root (rowsOf accepted) none requests pages)
    (sound : Sound (rowsOf accepted)) {more : List Submission}
    (isLater : rowsAfter (rowsOf accepted) requests = rowsOf (accepted ++ more))
    (later : Sound (rowsOf (accepted ++ more))) :
    ReturnsOnce accepted (accepted ++ more) root pages := by
  obtain ⟨shown, found, ordered, within, all⟩ := walk.shown valid sound (start_of_none root)
  rw [isLater] at within
  have inLater : ∀ row ∈ shown, row ∈ rowsOf (accepted ++ more) :=
    fun row member => (mem_window_iff.mp (within member)).1.1
  have written : ∀ row ∈ shown, IsWritten row :=
    fun row member => later.written row (inLater row member)
  have numbers := later.indices_nodup inLater ordered
  rw [← stored_all_indices written found] at numbers
  obtain ⟨indices, single⟩ := packages_apart numbers
  -- The rows that were shown are those of entries, and the order of the entries is that of the rows.
  obtain ⟨order, isShown, entries, descends⟩ :=
    exists_descending_entries (fun row member => window_entries (within member)) ordered
  rw [← isShown] at found
  refine ⟨?_, indices, order, entries, descends, all_read_of_stored_all found⟩
  intro entry member
  have inWindow : entry.row ∈ window (rowsOf accepted) root maxRowInteger maxRowInteger := by
    rw [sound.window_top, mem_listing_iff]
    exact row_of_mem_entries member
  have inShown := all inWindow
  rw [← isShown] at inShown
  obtain ⟨stored, onPages, isStored⟩ := stored_all_mem found inShown
  refine ⟨stored, Entry.read_as_of_stored isStored, ?_⟩
  rw [single.count, if_pos onPages]

end VoteRows

end

namespace LedgerState

variable {accepted : List Submission} {disk : Disk} {ledger : OpenLedger}

/-- Under any valid configuration, and whatever was stored before, paging through a root of a ledger
loses nothing and repeats nothing. -/
theorem pages_exactly (reached : Reached accepted disk ledger) {config : LedgerConfig}
    (valid : config.validate = .ok ()) (root : CensusRoot) :
    PagesExactly config accepted (ledger.rows disk) root := by
  obtain ⟨sound, rows⟩ := reached.rows
  rw [rows]
  have started := VoteRows.start_of_none root
  have top := sound.window_top root
  have listed {limits : Nat → Nat} {count : Nat} {pages : List (List StoredVotePackage)}
      (walk : VoteRows.Walk config root (VoteRows.rowsOf accepted) none
        (VoteRows.quietRequests limits count) pages) :
      VoteRows.Integers (VoteRows.listing (VoteRows.rowsOf accepted) root) ∧
        VoteRows.storedAll (VoteRows.listing (VoteRows.rowsOf accepted) root) =
          .ok pages.flatten := by
    have whole := walk.window_eq valid (fun _ => VoteRows.arrivals_of_mem_quiet) sound started
    rwa [top] at whole
  constructor
  · intro requests pages walk
    obtain ⟨more, isLater, later⟩ := sound.exists_accepted_after requests
    exact ⟨more, isLater, walk.returns_once valid sound isLater later⟩
  · intro limits count pages walk
    exact VoteRows.by_root_eq_ok_iff.mpr ⟨_, (listed walk).1, (listed walk).2, rfl⟩
  · intro limit count pages walk
    have length := walk.length_eq valid (fun _ => VoteRows.mem_quiet_constant) sound started
    rwa [VoteRows.quiet_requests_length, top, ← VoteRows.listed_length (listed walk).2] at length
  · intro limits
    constructor
    · rintro ⟨count, pages, walk⟩
      exact VoteRows.readable_of_by_root sound
        (VoteRows.by_root_eq_ok_iff.mpr ⟨_, (listed walk).1, (listed walk).2, rfl⟩)
    · intro readable
      obtain ⟨order, isListing⟩ := exists_listing accepted root
      obtain ⟨stored, integers, found, -⟩ := VoteRows.by_root_eq_ok_iff.mp
        (VoteRows.by_root_of_listing sound isListing readable)
      apply VoteRows.exists_quiet_walk valid sound none started
      · rwa [top]
      · rw [top]
        exact found

open VoteRows (numbered someRoot)

def numberedEntry (number : UInt8) : Entry := ⟨numbered number, number.toNat⟩

theorem indices_of_read {order : List Entry} {packages : List StoredVotePackage}
    (allRead : List.Forall₂ Entry.IsReadAs order packages) :
    (packages.map fun stored => stored.package.index) =
      order.map fun entry => entry.package.index := by
  have indices := congrArg (List.map VotePackage.index) (packages_of_read allRead)
  rwa [List.map_map, List.map_map] at indices

/-- Two packages of one time on two pages, between which a third one of that time is stored. -/
theorem pages_exactly_around_a_store :
    ∃ disk ledger, Reached [numbered 1, numbered 2] disk ledger ∧
      LedgerConfig.defaults.validate = .ok () ∧
      PagesExactly .defaults [numbered 1, numbered 2] (ledger.rows disk) someRoot ∧
      (VoteRows.submitAll (ledger.rows disk) [numbered 3]).length = 3 ∧
      ∃ first second, VoteRows.Walk .defaults someRoot (ledger.rows disk) none
          [⟨[], 1⟩, ⟨[numbered 3], 1⟩] [first, second] ∧
        (first.map fun stored => stored.package.index) = [2] ∧
        (second.map fun stored => stored.package.index) = [1] := by
  obtain ⟨disk, ledger, reached, -⟩ := exists_reached [numbered 1, numbered 2] (by decide)
    (by simp [Submission.Distinct, numbered])
  have valid : LedgerConfig.defaults.validate = .ok () := rfl
  refine ⟨disk, ledger, reached, valid, pages_exactly reached valid someRoot, ?_⟩
  have sound := reached.rows.1
  rw [reached.rows.2]
  have stored : VoteRows.submitAll (VoteRows.rowsOf [numbered 1, numbered 2]) [numbered 3] =
      VoteRows.rowsOf [numbered 1, numbered 2, numbered 3] := by
    decide +kernel
  have later := sound.submit_all [numbered 3]
  rw [stored] at later ⊢
  have two : IsListing [numbered 1, numbered 2] someRoot [numberedEntry 2, numberedEntry 1] :=
    steady_iff.mp (by decide)
  have three : IsListing [numbered 1, numbered 2, numbered 3] someRoot
      [numberedEntry 3, numberedEntry 2, numberedEntry 1] := steady_iff.mp (by decide)
  obtain ⟨⟨packages, nextCursor⟩, isFirst, first⟩ :
      ∃ page, VoteRows.page .defaults (VoteRows.rowsOf [numbered 1, numbered 2]) someRoot none 1 =
          .ok page ∧ IsWindow someRoot [numberedEntry 2, numberedEntry 1] 1 page :=
    sound.exists_window valid (VoteRows.start_of_none someRoot)
      (by rw [sound.window_top, two.rows sound]) (two.in_time (by decide)) (by decide)
  obtain ⟨next, isNext⟩ := Option.isSome_iff_exists.mp (first.more.mpr (by decide))
  obtain ⟨last, cursor, isLast, decodes, position⟩ := first.next next isNext
  cases isLast
  have started : VoteRows.startOf someRoot (some next) = .ok (0, 2) :=
    VoteRows.start_of_cursor_iff.mpr ⟨cursor, decodes, position⟩
  have below := VoteRows.window_of_listing later three (0, 2)
  obtain ⟨⟨others, noCursor⟩, isSecond, second⟩ :
      ∃ page, VoteRows.page .defaults (VoteRows.rowsOf [numbered 1, numbered 2, numbered 3])
          someRoot (some next) 1 = .ok page ∧ IsWindow someRoot [numberedEntry 1] 1 page :=
    later.exists_window valid started below
      (fun entry member => three.in_time (by decide) entry (List.mem_append_right [_, _] member))
      (by decide)
  have isEnd : noCursor = none := by
    simpa using second.more
  cases isEnd
  cases isNext
  refine ⟨rfl, packages, others, .more isFirst (.last ?_), indices_of_read first.shown,
    indices_of_read second.shown⟩
  exact stored ▸ isSecond

end LedgerState

end CensusNode
