import CensusNode.Proofs.Ledger.QuietWalks
import CensusNode.Proofs.Ledger.AppendOnly
import Mathlib.Data.List.Forall2
import Mathlib.Data.List.Nodup
import Mathlib.Data.Prod.Lex

/-!
The entries of a ledger: its accepted submissions with their numbers. The listing of a root is the one
order of its entries that descends in time and number. It is given here by what it contains and how
it is ordered, with no regard to how it is computed, and the rows of a ledger are tied to it.
-/

namespace CensusNode

/-- An accepted submission with its number. Numbers count from one on, across all roots. -/
structure Entry where
  submission : Submission
  number : Nat

namespace Entry

def row (entry : Entry) : VoteRow := entry.submission.row entry.number

def package (entry : Entry) : VotePackage := entry.submission.package

def time (entry : Entry) : Int := entry.submission.now.micros

/-- What entries are listed by: their time, and then their number. -/
def position (entry : Entry) : Int ×ₗ Int := toLex (entry.time, (entry.number : Int))

theorem position_lt_iff (entry other : Entry) :
    entry.position < other.position ↔
      entry.time < other.time ∨ (entry.time = other.time ∧ entry.number < other.number) := by
  rw [position, position, Prod.Lex.toLex_lt_toLex, Int.ofNat_lt]

theorem above_iff (entry other : Entry) :
    entry.row.Above other.row ↔ other.position < entry.position := by
  rw [position_lt_iff, VoteRow.Above, VoteRow.is_below_iff, ← Int.ofNat_lt]
  rfl

theorem is_below_iff (entry : Entry) (insertedAt insertionSeq : Int) :
    entry.row.isBelow insertedAt insertionSeq = true ↔
      entry.position < toLex (insertedAt, insertionSeq) := by
  rw [position, Prod.Lex.toLex_lt_toLex, VoteRow.is_below_iff]
  rfl

theorem row_root_iff (entry : Entry) (root : CensusRoot) :
    entry.row.root = root.bytes ↔ entry.submission.root = root := by
  constructor
  · intro same
    exact congrArg CensusRoot.mk (Block.eq_of_bytes_eq same)
  · intro same
    rw [← same]
    rfl

end Entry

def entriesOf (accepted : List Submission) : List Entry :=
  accepted.mapIdx fun place submission => ⟨submission, place + 1⟩

def entriesUnder (accepted : List Submission) (root : CensusRoot) : List Entry :=
  (entriesOf accepted).filter fun entry => entry.submission.root = root

/-- The entries of a root, each of them once, the latest first. -/
structure IsListing (accepted : List Submission) (root : CensusRoot) (order : List Entry) : Prop where
  complete : order.Perm (entriesUnder accepted root)
  descending : order.Pairwise fun entry next => next.position < entry.position

section

variable {accepted : List Submission} {root : CensusRoot} {order : List Entry}

theorem rows_of_eq_map (accepted : List Submission) :
    VoteRows.rowsOf accepted = (entriesOf accepted).map Entry.row := by
  apply List.ext_getElem
  · simp [VoteRows.rowsOf, entriesOf]
  · intro place _ _
    simp [VoteRows.rowsOf, entriesOf, Entry.row]

theorem entries_submissions (accepted : List Submission) :
    (entriesOf accepted).map Entry.submission = accepted := by
  apply List.ext_getElem
  · simp [entriesOf]
  · intro place _ _
    simp [entriesOf]

theorem entries_under_submissions (accepted : List Submission) (root : CensusRoot) :
    (entriesUnder accepted root).map Entry.submission =
      accepted.filter fun submission => submission.root = root := by
  conv_rhs => rw [← entries_submissions accepted, List.filter_map]
  rfl

theorem entries_under_rows (accepted : List Submission) (root : CensusRoot) :
    ((VoteRows.rowsOf accepted).filter fun row => row.root = root.bytes) =
      (entriesUnder accepted root).map Entry.row := by
  rw [rows_of_eq_map, List.filter_map, entriesUnder]
  congr 1
  apply List.filter_congr
  intro entry _
  exact decide_eq_decide.mpr (entry.row_root_iff root)

theorem numbers_ascend (accepted : List Submission) :
    (entriesOf accepted).Pairwise fun entry next => entry.number < next.number := by
  rw [List.pairwise_iff_getElem]
  intro first second _ _ ordered
  simpa [entriesOf] using ordered

theorem numbers_ascend_under (accepted : List Submission) (root : CensusRoot) :
    (entriesUnder accepted root).Pairwise fun entry next => entry.number < next.number :=
  (numbers_ascend accepted).sublist List.filter_sublist

theorem mem_entries_iff {entry : Entry} :
    entry ∈ entriesOf accepted ↔
      ∃ place, accepted[place]? = some entry.submission ∧ entry.number = place + 1 := by
  rw [entriesOf, List.mem_mapIdx]
  constructor
  · rintro ⟨place, inRange, same⟩
    rw [← same]
    exact ⟨place, List.getElem?_eq_getElem inRange, rfl⟩
  · rintro ⟨place, isAt, isNumber⟩
    obtain ⟨inRange, isSubmission⟩ := List.getElem?_eq_some_iff.mp isAt
    refine ⟨place, inRange, ?_⟩
    rw [isSubmission, ← isNumber]

theorem mem_entries_under_iff {entry : Entry} :
    entry ∈ entriesUnder accepted root ↔
      entry ∈ entriesOf accepted ∧ entry.submission.root = root := by
  rw [entriesUnder, List.mem_filter, decide_eq_true_eq]

theorem row_of_mem_entries {entry : Entry} (member : entry ∈ entriesUnder accepted root) :
    entry.row ∈ VoteRows.rowsOf accepted ∧ entry.row.root = root.bytes := by
  obtain ⟨inEntries, sameRoot⟩ := mem_entries_under_iff.mp member
  rw [rows_of_eq_map]
  exact ⟨List.mem_map_of_mem inEntries, (entry.row_root_iff root).mpr sameRoot⟩

theorem submission_mem {entry : Entry} (member : entry ∈ entriesUnder accepted root) :
    entry.submission ∈ accepted := by
  obtain ⟨place, isAt, -⟩ := mem_entries_iff.mp (mem_entries_under_iff.mp member).1
  exact List.mem_of_getElem? isAt

theorem exists_sorted (entries : List Entry) :
    ∃ order : List Entry, order.Perm entries ∧
      order.Pairwise fun entry next => next.position ≤ entry.position := by
  have sorted := List.pairwise_mergeSort
    (fun (first second third : Entry) (earlier : decide (second.position ≤ first.position) = true)
        (later : decide (third.position ≤ second.position) = true) =>
      decide_eq_true (le_trans (of_decide_eq_true later) (of_decide_eq_true earlier)))
    (fun first second => by
      rw [Bool.or_eq_true, decide_eq_true_eq, decide_eq_true_eq]
      exact le_total second.position first.position)
    entries
  exact ⟨_, List.mergeSort_perm _ _, sorted.imp of_decide_eq_true⟩

theorem exists_listing (accepted : List Submission) (root : CensusRoot) :
    ∃ order, IsListing accepted root order := by
  obtain ⟨order, perm, sorted⟩ := exists_sorted (entriesUnder accepted root)
  have distinct : order.Pairwise fun entry next => entry.number ≠ next.number := by
    rw [perm.pairwise_iff fun different => different.symm]
    exact (numbers_ascend_under accepted root).imp fun ascending => Nat.ne_of_lt ascending
  -- Sorting leaves ties open, but no two entries share a number.
  refine ⟨order, perm, (sorted.and distinct).imp ?_⟩
  rintro entry next ⟨ordered, apart⟩
  apply lt_of_le_of_ne ordered
  intro same
  have numbers : (next.number : Int) = entry.number := congrArg (fun place => (ofLex place).2) same
  exact apart (Int.ofNat.inj numbers).symm

theorem IsListing.unique {other : List Entry} (isListing : IsListing accepted root order)
    (isOther : IsListing accepted root other) : order = other := by
  refine List.Perm.eq_of_pairwise ?_ isListing.descending isOther.descending
    (isListing.complete.trans isOther.complete.symm)
  intro entry next _ _ ordered swapped
  exact absurd ordered swapped.asymm

theorem IsListing.rows (isListing : IsListing accepted root order)
    (sound : VoteRows.Sound (VoteRows.rowsOf accepted)) :
    VoteRows.listing (VoteRows.rowsOf accepted) root = order.map Entry.row := by
  have descending : (order.map Entry.row).Pairwise VoteRow.Above := by
    rw [List.pairwise_map]
    exact isListing.descending.imp fun descends => (Entry.above_iff _ _).mpr descends
  have perm : (VoteRows.listing (VoteRows.rowsOf accepted) root).Perm (order.map Entry.row) := by
    rw [VoteRows.listing, entries_under_rows]
    exact (List.mergeSort_perm _ _).trans (isListing.complete.map Entry.row).symm
  refine List.Perm.eq_of_pairwise ?_ (sound.listing_pairwise root) descending perm
  intro row next _ _ ordered swapped
  have contrary := ordered.not_below
  rw [VoteRow.Above] at swapped
  rw [swapped] at contrary
  cases contrary

theorem IsListing.mem_iff (isListing : IsListing accepted root order) {entry : Entry} :
    entry ∈ order ↔ entry ∈ entriesUnder accepted root :=
  isListing.complete.mem_iff

theorem packages_nodup (sound : VoteRows.Sound (VoteRows.rowsOf accepted)) (root : CensusRoot) :
    ((entriesUnder accepted root).map Entry.package).Nodup := by
  have apart := sound.apart
  rw [rows_of_eq_map, List.pairwise_map] at apart
  rw [List.Nodup, List.pairwise_map]
  apply (apart.sublist List.filter_sublist).imp
  intro entry next different same
  exact different.2.1 (congrArg VotePackage.publicKey same)

end

/-- A stored package is that of an entry, at its time in whole microseconds. -/
def Entry.IsReadAs (entry : Entry) (stored : StoredVotePackage) : Prop :=
  stored.root = entry.submission.root ∧ stored.package = entry.package ∧
    Instant.ofMicros? entry.time = some stored.insertedAt

/-- An entry that can be read: its time is within the calendar, and its number is an integer of the
database. -/
def Entry.IsReadable (entry : Entry) : Prop :=
  entry.time ≤ Instant.latestMicros ∧ entry.number ≤ maxRowInteger

instance (entry : Entry) : Decidable entry.IsReadable := inferInstanceAs (Decidable (_ ∧ _))

/-- Every reading of the clock is within the calendar. Only a leap second after the very last second
is not. -/
def InTime (accepted : List Submission) : Prop :=
  ∀ submission ∈ accepted, submission.now.micros ≤ Instant.latestMicros

instance (accepted : List Submission) : Decidable (InTime accepted) :=
  inferInstanceAs (Decidable (∀ submission ∈ accepted, _))

theorem IsListing.in_time {accepted : List Submission} {root : CensusRoot} {order : List Entry}
    (isListing : IsListing accepted root order) (inTime : InTime accepted) :
    ∀ entry ∈ order, entry ∈ entriesUnder accepted root ∧ entry.time ≤ Instant.latestMicros := by
  intro entry member
  have under := isListing.mem_iff.mp member
  exact ⟨under, inTime _ (submission_mem under)⟩

theorem Entry.exists_read (entry : Entry)
    (inTime : entry.time ≤ Instant.latestMicros) :
    ∃ stored, entry.row.stored = .ok stored ∧ entry.IsReadAs stored := by
  obtain ⟨insertedAt, isInstant⟩ :=
    Instant.of_micros_is_some entry.submission.now.micros_bounds.1 inTime
  refine ⟨⟨entry.submission.root, entry.package, insertedAt⟩, ?_, rfl, rfl, isInstant⟩
  have read := VoteRows.stored_row_of entry.submission.root entry.package entry.submission.now
    entry.number
  rw [isInstant] at read
  exact read

theorem exists_all_read {order : List Entry}
    (inTime : ∀ entry ∈ order, entry.time ≤ Instant.latestMicros) :
    ∃ packages, VoteRows.storedAll (order.map Entry.row) = .ok packages ∧
      List.Forall₂ Entry.IsReadAs order packages := by
  induction order with
  | nil => exact ⟨[], rfl, List.Forall₂.nil⟩
  | cons entry rest induction =>
      obtain ⟨first, isFirst, readAs⟩ := entry.exists_read (inTime entry List.mem_cons_self)
      obtain ⟨others, areOthers, allRead⟩ :=
        induction fun other member => inTime other (List.mem_cons_of_mem _ member)
      exact ⟨first :: others,
        VoteRows.stored_all_cons_iff.mpr ⟨first, others, isFirst, areOthers, rfl⟩,
        List.Forall₂.cons readAs allRead⟩

theorem packages_of_read {order : List Entry} {packages : List StoredVotePackage}
    (allRead : List.Forall₂ Entry.IsReadAs order packages) :
    packages.map StoredVotePackage.package = order.map Entry.package := by
  induction allRead with
  | nil => rfl
  | cons readAs _ induction => rw [List.map_cons, List.map_cons, induction, readAs.2.1]

theorem integers_iff (order : List Entry) :
    VoteRows.Integers (order.map Entry.row) ↔ ∀ entry ∈ order, entry.number ≤ maxRowInteger := by
  rw [VoteRows.Integers, List.forall_mem_map]
  apply forall₂_congr
  intro entry _
  rw [VoteRow.hasIntegerSeq, decide_eq_true_eq]
  exact Int.ofNat_le

theorem readable_of_beyond {order : List Entry}
    (beyond : ∃ entry ∈ order, maxRowInteger < entry.number) :
    VoteRows.readable (order.map Entry.row) = .error (.database .sequenceNotInteger) := by
  obtain ⟨entry, member, large⟩ := beyond
  have notAll : ¬VoteRows.Integers (order.map Entry.row) := by
    rw [integers_iff]
    exact fun all => absurd (all entry member) (Nat.not_le.mpr large)
  rw [VoteRows.readable, if_neg]
  rwa [List.all_eq_true]

end CensusNode
