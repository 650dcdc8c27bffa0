import CensusNode.Proofs.Ledger.Entries
import CensusNode.Proofs.Ledger.Storing

/-!
What a ledger lists. The packages of a root are those accepted under it, each once, in descending
order of time and number, and counting them or asking for one of them agrees with that. Since time
comes first, the list runs from the latest store to the first one exactly when the clock never went
back between the stores of the root.
-/

namespace CensusNode

/-- The clock never went back from one accepted submission of a root to the next one. Time is counted
in whole microseconds, which is all that a ledger keeps of it. -/
def Steady (accepted : List Submission) (root : CensusRoot) : Prop :=
  (accepted.filter fun submission => submission.root = root).Pairwise fun earlier later =>
    earlier.now.micros ≤ later.now.micros

instance (accepted : List Submission) (root : CensusRoot) : Decidable (Steady accepted root) :=
  inferInstanceAs (Decidable (List.Pairwise _ _))

theorem steady_iff {accepted : List Submission} {root : CensusRoot} :
    Steady accepted root ↔ IsListing accepted root (entriesUnder accepted root).reverse := by
  rw [Steady, ← entries_under_submissions, List.pairwise_map]
  have ascending := numbers_ascend_under accepted root
  constructor
  · intro steady
    refine ⟨List.reverse_perm _, ?_⟩
    rw [List.pairwise_reverse]
    apply (steady.and ascending).imp
    rintro entry next ⟨inOrder, later⟩
    rw [Entry.position_lt_iff]
    exact (lt_or_eq_of_le inOrder).imp_right fun same => ⟨same, later⟩
  · intro isListing
    have descending := isListing.descending
    rw [List.pairwise_reverse] at descending
    apply descending.imp
    intro entry next later
    rw [Entry.position_lt_iff] at later
    rcases later with earlier | ⟨same, -⟩
    · exact le_of_lt earlier
    · exact le_of_eq same

theorem eq_of_map_eq_map {order other : List Entry}
    (distinct : (other.map Entry.package).Nodup) (perm : order.Perm other)
    (same : order.map Entry.package = other.map Entry.package) : order = other := by
  apply List.ext_getElem perm.length_eq
  intro place inOrder inOther
  have packages := List.getElem_of_eq same (by rwa [List.length_map])
  rw [List.getElem_map, List.getElem_map] at packages
  exact List.inj_on_of_nodup_map distinct (perm.mem_iff.mp (List.getElem_mem inOrder))
    (List.getElem_mem inOther) packages

namespace VoteRows

variable {accepted : List Submission} {root : CensusRoot} {order : List Entry}

theorem by_root_of_listing (sound : Sound (rowsOf accepted))
    (isListing : IsListing accepted root order)
    (readable : ∀ entry ∈ entriesUnder accepted root, entry.IsReadable) :
    byRoot (rowsOf accepted) root = .ok (order.map Entry.package) := by
  have ofOrder := fun entry member => readable entry (isListing.mem_iff.mp member)
  obtain ⟨packages, read, allRead⟩ := exists_all_read fun entry member => (ofOrder entry member).1
  rw [by_root_eq_ok_iff, isListing.rows sound]
  exact ⟨packages, (integers_iff order).mpr fun entry member => (ofOrder entry member).2, read,
    (packages_of_read allRead).symm⟩

theorem by_root_of_beyond (sound : Sound (rowsOf accepted))
    (beyond : ∃ entry ∈ entriesUnder accepted root, maxRowInteger < entry.number) :
    byRoot (rowsOf accepted) root = .error (.database .sequenceNotInteger) := by
  obtain ⟨order, isListing⟩ := exists_listing accepted root
  obtain ⟨entry, member, large⟩ := beyond
  have unreadable := readable_of_beyond ⟨entry, isListing.mem_iff.mpr member, large⟩
  rw [byRoot, isListing.rows sound, unreadable]
  rfl

theorem readable_of_by_root (sound : Sound (rowsOf accepted)) {listed : List VotePackage}
    (isListed : byRoot (rowsOf accepted) root = .ok listed) :
    ∀ entry ∈ entriesUnder accepted root, entry.IsReadable := by
  intro entry member
  obtain ⟨inRows, sameRoot⟩ := row_of_mem_entries member
  have bounds := (sound.listed_iff root).mp ⟨listed, isListed⟩ entry.row inRows sameRoot
  exact ⟨bounds.1, Int.ofNat_le.mp bounds.2⟩

theorem count_eq_length (isListing : IsListing accepted root order) :
    count (rowsOf accepted) root = (order.map Entry.package).length := by
  rw [count, entries_under_rows, List.length_map, List.length_map, isListing.complete.length_eq]

theorem handed_out_eq_ok_iff (entry : Entry) {stored : StoredVotePackage} :
    entry.submission.handedOut entry.number = .ok stored ↔
      entry.number ≤ maxRowInteger ∧ entry.IsReadAs stored := by
  have sameTime : Instant.ofMicros? entry.time = Instant.ofMicros? entry.submission.now.micros := rfl
  rw [Submission.handedOut, Entry.IsReadAs, sameTime]
  by_cases beyond : maxRowInteger < entry.number
  · rw [if_pos beyond]
    simp [Nat.not_le.mpr beyond]
  · rw [if_neg beyond]
    cases Instant.ofMicros? entry.submission.now.micros with
    | none => simp
    | some insertedAt =>
        obtain ⟨root, package, time⟩ := stored
        simp [Entry.package, Nat.le_of_not_lt beyond, eq_comm]

theorem index_of_get {rows : List VoteRow} {index : UInt64} {stored : StoredVotePackage}
    (found : get rows index = .ok stored) : ∃ row ∈ rows, row.index = (index.toNat : Int) := by
  unfold get at found
  cases isRow : rows.find? fun row => row.index = (index.toNat : Int) with
  | none =>
      rw [isRow] at found
      cases found
  | some row =>
      exact ⟨row, List.mem_of_find?_eq_some isRow, by simpa using List.find?_some isRow⟩

/-- What is handed out under an index is what an entry with that index is read as. -/
theorem get_eq_ok_iff (sound : Sound (rowsOf accepted)) {index : UInt64}
    {stored : StoredVotePackage} :
    get (rowsOf accepted) index = .ok stored ↔
      ∃ entry ∈ entriesOf accepted, entry.package.index = index ∧
        entry.number ≤ maxRowInteger ∧ entry.IsReadAs stored := by
  have handedOut : ∀ entry ∈ entriesOf accepted,
      get (rowsOf accepted) entry.package.index = entry.submission.handedOut entry.number := by
    intro entry member
    obtain ⟨place, isAt, isNumber⟩ := mem_entries_iff.mp member
    rw [isNumber]
    exact sound.get_of_accepted isAt
  constructor
  · intro found
    obtain ⟨row, inRows, sameIndex⟩ := index_of_get found
    rw [rows_of_eq_map, List.mem_map] at inRows
    obtain ⟨entry, member, isRow⟩ := inRows
    have same : entry.package.index = index := by
      rw [← isRow] at sameIndex
      exact UInt64.toNat_inj.mp (Int.ofNat.inj sameIndex)
    rw [← same, handedOut entry member, handed_out_eq_ok_iff] at found
    exact ⟨entry, member, same, found⟩
  · rintro ⟨entry, member, same, readable⟩
    rw [← same, handedOut entry member, handed_out_eq_ok_iff]
    exact readable

/-- A package is in the listing of a root exactly when it is handed out with that root. -/
theorem mem_listing_iff_get (sound : Sound (rowsOf accepted))
    (isListing : IsListing accepted root order)
    (readable : ∀ entry ∈ entriesUnder accepted root, entry.IsReadable) (package : VotePackage) :
    package ∈ order.map Entry.package ↔
      ∃ insertedAt, get (rowsOf accepted) package.index = .ok ⟨root, package, insertedAt⟩ := by
  rw [List.mem_map]
  constructor
  · rintro ⟨entry, member, same⟩
    have under := isListing.mem_iff.mp member
    obtain ⟨inTime, number⟩ := readable entry under
    obtain ⟨inEntries, sameRoot⟩ := mem_entries_under_iff.mp under
    obtain ⟨⟨storedRoot, storedPackage, insertedAt⟩, -, isRoot, isPackage, isTime⟩ :=
      entry.exists_read inTime
    refine ⟨insertedAt, ?_⟩
    rw [get_eq_ok_iff sound, ← same]
    exact ⟨entry, inEntries, rfl, number, sameRoot.symm, rfl, isTime⟩
  · rintro ⟨insertedAt, found⟩
    obtain ⟨entry, inEntries, -, -, isRoot, isPackage, -⟩ := (get_eq_ok_iff sound).mp found
    have under := mem_entries_under_iff.mpr ⟨inEntries, isRoot.symm⟩
    exact ⟨entry, isListing.mem_iff.mpr under, isPackage.symm⟩

end VoteRows

/-- A list of packages is that of the submissions accepted under a root, the latest first, and the
other questions to the ledger agree with it. -/
structure ListsNewestFirst (accepted : List Submission) (rows : List VoteRow) (root : CensusRoot)
    (listed : List VotePackage) : Prop where
  ordered : ∃ order, IsListing accepted root order ∧ listed = order.map Entry.package
  distinct : listed.Nodup
  counted : VoteRows.count rows root = listed.length
  found : ∀ package, package ∈ listed ↔
    ∃ insertedAt, VoteRows.get rows package.index = .ok ⟨root, package, insertedAt⟩
  steady : Steady accepted root → listed =
    ((accepted.filter fun submission => submission.root = root).map Submission.package).reverse

theorem latest_first_of_reverse (accepted : List Submission) (root : CensusRoot) :
    (entriesUnder accepted root).reverse.map Entry.package =
      ((accepted.filter fun submission => submission.root = root).map
        Submission.package).reverse := by
  rw [← entries_under_submissions, List.map_map, ← List.map_reverse]
  rfl

namespace LedgerState

variable {accepted : List Submission} {disk : Disk} {ledger : OpenLedger}

structure ListingOutcome (accepted : List Submission) (rows : List VoteRow) (root : CensusRoot) :
    Prop where
  listed : (∀ entry ∈ entriesUnder accepted root, entry.number ≤ maxRowInteger) →
    ∃ listed, VoteRows.byRoot rows root = .ok listed ∧
      ListsNewestFirst accepted rows root listed
  /-- The number 2 ^ 63 is no integer of the database. An entry that has it is the last one that a
  ledger can take. -/
  beyond : (∃ entry ∈ entriesUnder accepted root, maxRowInteger < entry.number) →
    VoteRows.byRoot rows root = .error (.database .sequenceNotInteger)

/-- A ledger lists what it has accepted under a root, the latest first. -/
theorem listing_is_complete_and_ordered (reached : Reached accepted disk ledger)
    (inTime : InTime accepted) (root : CensusRoot) :
    ListingOutcome accepted (ledger.rows disk) root := by
  obtain ⟨sound, rows⟩ := reached.rows
  rw [rows]
  constructor
  · intro numbers
    obtain ⟨order, isListing⟩ := exists_listing accepted root
    have readable : ∀ entry ∈ entriesUnder accepted root, entry.IsReadable :=
      fun entry member => ⟨inTime _ (submission_mem member), numbers entry member⟩
    refine ⟨_, VoteRows.by_root_of_listing sound isListing readable, ⟨order, isListing, rfl⟩, ?_,
      VoteRows.count_eq_length isListing, VoteRows.mem_listing_iff_get sound isListing readable, ?_⟩
    · rw [(isListing.complete.map Entry.package).nodup_iff]
      exact packages_nodup sound root
    · intro steady
      rw [isListing.unique (steady_iff.mp steady), latest_first_of_reverse]
  · exact VoteRows.by_root_of_beyond sound

def aSecondLate (number : UInt8) : Submission :=
  { VoteRows.numbered number with now := (Instant.of? 1 0).getD .epoch }

theorem exists_stepped_back :
    ∃ disk ledger, Reached [aSecondLate 1, VoteRows.numbered 2] disk ledger ∧
      InTime [aSecondLate 1, VoteRows.numbered 2] := by
  obtain ⟨disk, ledger, reached, -⟩ :=
    exists_reached [aSecondLate 1, VoteRows.numbered 2] (by decide)
      (by simp [Submission.Distinct, aSecondLate, VoteRows.numbered])
  exact ⟨disk, ledger, reached, by decide⟩

theorem unsteady_listing_is_complete_and_ordered :
    ∃ disk ledger, Reached [aSecondLate 1, VoteRows.numbered 2] disk ledger ∧
      InTime [aSecondLate 1, VoteRows.numbered 2] ∧
      ListingOutcome [aSecondLate 1, VoteRows.numbered 2] (ledger.rows disk)
        VoteRows.someRoot := by
  obtain ⟨disk, ledger, reached, inTime⟩ := exists_stepped_back
  exact ⟨disk, ledger, reached, inTime, listing_is_complete_and_ordered reached inTime _⟩

/-- The packages of a root are listed in the reverse of the order in which they were stored exactly
when the clock never went back between them, as far as they can be read at all. -/
theorem latest_first_iff_steady (reached : Reached accepted disk ledger) (root : CensusRoot) :
    VoteRows.byRoot (ledger.rows disk) root =
        .ok ((accepted.filter fun submission => submission.root = root).map
          Submission.package).reverse ↔
      Steady accepted root ∧ ∀ entry ∈ entriesUnder accepted root, entry.IsReadable := by
  obtain ⟨sound, rows⟩ := reached.rows
  rw [rows, ← latest_first_of_reverse]
  constructor
  · intro isListed
    have readable := VoteRows.readable_of_by_root sound isListed
    obtain ⟨order, isListing⟩ := exists_listing accepted root
    have packages := VoteRows.by_root_of_listing sound isListing readable
    rw [isListed] at packages
    have perm := isListing.complete.trans (List.reverse_perm _).symm
    have distinct : ((entriesUnder accepted root).reverse.map Entry.package).Nodup := by
      rw [List.map_reverse, List.nodup_reverse]
      exact packages_nodup sound root
    -- Packages tell entries apart, so that the same packages in the same order are the same entries.
    have isReverse := eq_of_map_eq_map distinct perm (Except.ok.inj packages).symm
    rw [isReverse] at isListing
    exact ⟨steady_iff.mpr isListing, readable⟩
  · rintro ⟨steady, readable⟩
    exact VoteRows.by_root_of_listing sound (steady_iff.mp steady) readable

theorem steady_packages_are_listed_latest_first :
    ∃ disk ledger, Reached [VoteRows.numbered 1, VoteRows.numbered 2] disk ledger ∧
      VoteRows.byRoot (ledger.rows disk) VoteRows.someRoot =
        .ok [(VoteRows.numbered 2).package, (VoteRows.numbered 1).package] := by
  obtain ⟨disk, ledger, reached, -⟩ :=
    exists_reached [VoteRows.numbered 1, VoteRows.numbered 2] (by decide)
      (by simp [Submission.Distinct, VoteRows.numbered])
  have steady : Steady [VoteRows.numbered 1, VoteRows.numbered 2] VoteRows.someRoot := by
    unfold Steady
    decide
  have readable : ∀ entry ∈ entriesUnder [VoteRows.numbered 1, VoteRows.numbered 2]
      VoteRows.someRoot, entry.IsReadable := by
    decide
  exact ⟨disk, ledger, reached, (latest_first_iff_steady reached _).mpr ⟨steady, readable⟩⟩

/-- When the clock goes back between two stores, the package that is stored last is listed last. -/
theorem stepped_back_clock_lists_latest_last :
    ∃ disk ledger, Reached [aSecondLate 1, VoteRows.numbered 2] disk ledger ∧
      VoteRows.byRoot (ledger.rows disk) VoteRows.someRoot =
        .ok [(aSecondLate 1).package, (VoteRows.numbered 2).package] ∧
      VoteRows.byRoot (ledger.rows disk) VoteRows.someRoot ≠
        .ok (([aSecondLate 1, VoteRows.numbered 2].filter fun submission =>
          submission.root = VoteRows.someRoot).map Submission.package).reverse := by
  obtain ⟨disk, ledger, reached, -⟩ := exists_stepped_back
  obtain ⟨sound, rows⟩ := reached.rows
  have isListing : IsListing [aSecondLate 1, VoteRows.numbered 2] VoteRows.someRoot
      [⟨aSecondLate 1, 1⟩, ⟨VoteRows.numbered 2, 2⟩] := by
    refine ⟨List.Perm.refl _, ?_⟩
    rw [List.pairwise_pair, Entry.position_lt_iff]
    decide
  have listed := VoteRows.by_root_of_listing sound isListing (by decide)
  rw [← rows] at listed
  refine ⟨disk, ledger, reached, listed, ?_⟩
  rw [listed]
  intro same
  have first := (List.cons.inj (Except.ok.inj same)).1
  exact absurd (congrArg VotePackage.index first) (by decide)

end LedgerState

end CensusNode
