import CensusNode.Proofs.Ledger.Paging

/-!
Walks during which nothing arrives. Such a walk cuts the listing into pages: it ends, its pages one
after another are the listing, and under one limit their number is that of the pages needed.
-/

namespace CensusNode.VoteRows

open VoteRow

/-- Requests with the given limits, between which nothing arrives. -/
def quietRequests (limits : Nat → Nat) (count : Nat) : List PageRequest :=
  (List.range count).map fun turn => ⟨[], limits turn⟩

theorem arrivals_of_mem_quiet {limits : Nat → Nat} {count : Nat} {request : PageRequest}
    (member : request ∈ quietRequests limits count) : request.arrivals = [] := by
  rw [quietRequests, List.mem_map] at member
  obtain ⟨turn, -, same⟩ := member
  rw [← same]

theorem quiet_requests_succ (limits : Nat → Nat) (count : Nat) :
    quietRequests limits (count + 1) =
      ⟨[], limits 0⟩ :: quietRequests (fun turn => limits (turn + 1)) count := by
  rw [quietRequests, List.range_succ_eq_map, List.map_cons, List.map_map]
  rfl

theorem Walk.window_eq {config : LedgerConfig} (valid : config.validate = .ok ())
    {root : CensusRoot} {rows : List VoteRow} {cursor : Option String}
    {requests : List PageRequest} {pages : List (List StoredVotePackage)}
    (walk : Walk config root rows cursor requests pages)
    (quiet : ∀ request ∈ requests, request.arrivals = []) (sound : Sound rows)
    {start : Int × Int} (started : startOf root cursor = .ok start) :
    Integers (window rows root start.1 start.2) ∧
      storedAll (window rows root start.1 start.2) = .ok pages.flatten := by
  induction walk generalizing start with
  | @last rows cursor request packages shown =>
      rw [quiet request List.mem_cons_self] at shown
      rcases sound.page_cases valid started shown with
        ⟨-, -, integers, found⟩ | ⟨front, row, rest, -, -, -, -, -, noCursor, -⟩
      · rw [List.flatten_singleton]
        exact ⟨integers, found⟩
      · cases noCursor
  | @more rows cursor request packages next requests pages shown rest induction =>
      have nothing := quiet request List.mem_cons_self
      rw [nothing] at shown induction
      rcases sound.page_cases valid started shown with
        ⟨noCursor, -⟩ | ⟨front, row, after, split, -, -, integers, found, -, position⟩
      · cases noCursor
      · obtain ⟨laterIntegers, laterFound⟩ :=
          induction (fun other member => quiet other (List.mem_cons_of_mem _ member)) sound position
        have remaining : window (submitAll rows []) root row.insertedAt row.insertionSeq = after :=
          sound.window_after split
        simp only [remaining] at laterIntegers laterFound
        have regrouped : front ++ row :: after = (front ++ [row]) ++ after := by
          rw [List.append_assoc, List.singleton_append]
        rw [split, regrouped]
        constructor
        · intro other member
          rcases List.mem_append.mp member with here | later
          · exact integers other here
          · exact laterIntegers other later
        · rw [stored_all_append_iff]
          exact ⟨packages, pages.flatten, found, laterFound, rfl⟩

/-- A window that can be read is walked to its end. The induction is on the rows that are left,
which every page makes fewer. -/
theorem exists_quiet_walk {config : LedgerConfig} (valid : config.validate = .ok ())
    {root : CensusRoot} {rows : List VoteRow} (sound : Sound rows) (cursor : Option String)
    {start : Int × Int} (started : startOf root cursor = .ok start)
    (integers : Integers (window rows root start.1 start.2)) {listed : List StoredVotePackage}
    (found : storedAll (window rows root start.1 start.2) = .ok listed) (limits : Nat → Nat) :
    ∃ count pages, Walk config root rows cursor (quietRequests limits count) pages := by
  induction size_eq : (window rows root start.1 start.2).length using Nat.strongRecOn
    generalizing cursor start listed limits with
  | ind size induction =>
      rcases sound.page_of_readable valid started (limits 0) integers found with
        shown | ⟨front, row, rest, packages, others, split, shown, position, areOthers⟩
      · exact ⟨1, [listed], Walk.last shown⟩
      · have remaining := sound.window_after split
        have fewer : (window rows root row.insertedAt row.insertionSeq).length < size := by
          rw [remaining, ← size_eq, split, List.length_append, List.length_cons]
          omega
        have laterIntegers : Integers (window rows root row.insertedAt row.insertionSeq) := by
          intro other member
          rw [remaining] at member
          apply integers
          rw [split]
          exact List.mem_append_right front (List.mem_cons_of_mem row member)
        obtain ⟨count, pages, walk⟩ := induction _ fewer _ position laterIntegers
          (by rw [remaining]; exact areOthers) (fun turn => limits (turn + 1)) rfl
        refine ⟨count + 1, packages :: pages, ?_⟩
        rw [quiet_requests_succ]
        exact Walk.more shown walk

/-- The number of pages of the given size for a number of rows, an empty page for none. -/
def pagesNeeded (rows size : Nat) : Nat := max 1 ((rows + size - 1) / size)

theorem pages_needed_of_le {rows size : Nat} (positive : 0 < size) (fits : rows ≤ size) :
    pagesNeeded rows size = 1 := by
  have few : (rows + size - 1) / size < 2 := by
    rw [Nat.div_lt_iff_lt_mul positive]
    omega
  unfold pagesNeeded
  omega

theorem pages_needed_add {rows size : Nat} (positive : 0 < size) (some_left : 0 < rows) :
    pagesNeeded (size + rows) size = pagesNeeded rows size + 1 := by
  have shift : size + rows + size - 1 = rows + size - 1 + size := by omega
  have some_page : 1 ≤ (rows + size - 1) / size := by
    rw [Nat.one_le_div_iff positive]
    omega
  unfold pagesNeeded
  rw [shift, Nat.add_div_right _ positive]
  omega

/-- Under one limit, a quiet walk takes the pages that its window needs. -/
theorem Walk.length_eq {config : LedgerConfig} (valid : config.validate = .ok ())
    {root : CensusRoot} {rows : List VoteRow} {cursor : Option String}
    {requests : List PageRequest} {pages : List (List StoredVotePackage)}
    (walk : Walk config root rows cursor requests pages) {limit : Nat}
    (quiet : ∀ request ∈ requests, request = ⟨[], limit⟩) (sound : Sound rows)
    {start : Int × Int} (started : startOf root cursor = .ok start) :
    requests.length =
      pagesNeeded (window rows root start.1 start.2).length (config.clampPageSize limit) := by
  have positive := config.clamp_page_size_pos valid limit
  induction walk generalizing start with
  | @last rows cursor request packages shown =>
      rw [quiet request List.mem_cons_self] at shown
      rcases sound.page_cases valid started shown with
        ⟨-, fits, -, -⟩ | ⟨front, row, rest, -, -, -, -, -, noCursor, -⟩
      · rw [pages_needed_of_le positive fits, List.length_singleton]
      · cases noCursor
  | @more rows cursor request packages next requests pages shown rest induction =>
      rw [quiet request List.mem_cons_self] at shown induction
      rcases sound.page_cases valid started shown with
        ⟨noCursor, -⟩ | ⟨front, row, after, split, some_left, full, -, -, -, position⟩
      · cases noCursor
      · have later := induction (fun other member => quiet other (List.mem_cons_of_mem _ member))
          sound position
        have remaining : window (submitAll rows []) root row.insertedAt row.insertionSeq = after :=
          sound.window_after split
        have left : 0 < after.length := List.length_pos_iff.mpr some_left
        have total : (window rows root start.1 start.2).length =
            config.clampPageSize limit + after.length := by
          have full : front.length + 1 = config.clampPageSize limit := full
          rw [split, List.length_append, List.length_cons]
          omega
        simp only [remaining] at later
        rw [total, pages_needed_add positive left, ← later, List.length_cons]

theorem by_root_eq_ok_iff {rows : List VoteRow} {root : CensusRoot} {listed : List VotePackage} :
    byRoot rows root = .ok listed ↔
      ∃ stored, Integers (listing rows root) ∧ storedAll (listing rows root) = .ok stored ∧
        listed = stored.map StoredVotePackage.package := by
  simp only [byRoot, bind, Except.bind]
  cases reads : readable (listing rows root) with
  | error error =>
      constructor
      · intro same
        cases same
      · rintro ⟨stored, integers, -⟩
        rw [readable_eq_ok_iff.mpr ⟨integers, rfl⟩] at reads
        cases reads
  | ok fetched =>
      obtain ⟨integers, same⟩ := readable_eq_ok_iff.mp reads
      simp only [same]
      cases storedAll (listing rows root) with
      | error error => simp
      | ok stored =>
          constructor
          · intro isListed
            exact ⟨stored, integers, rfl, (Except.ok.inj isListed).symm⟩
          · rintro ⟨others, -, isStored, isListed⟩
            rw [isListed, Except.ok.inj isStored]

theorem stored_all_readable {rows : List VoteRow}
    (present : ∀ row ∈ rows, ∃ stored, row.stored = .ok stored) :
    ∃ packages, storedAll rows = .ok packages := by
  induction rows with
  | nil => exact ⟨[], rfl⟩
  | cons row rest induction =>
      obtain ⟨first, isFirst⟩ := present row List.mem_cons_self
      obtain ⟨others, areOthers⟩ :=
        induction fun other member => present other (List.mem_cons_of_mem _ member)
      exact ⟨first :: others, stored_all_cons_iff.mpr ⟨first, others, isFirst, areOthers, rfl⟩⟩

/-- A written row can be read back unless it was written in a leap second after the very last
second. -/
theorem IsWritten.stored_iff {row : VoteRow} (written : IsWritten row) :
    (∃ stored, row.stored = .ok stored) ↔ row.insertedAt ≤ Instant.latestMicros := by
  obtain ⟨root, package, now, -, same⟩ := written
  have reading : row.insertedAt = now.micros := by rw [same]; rfl
  have bounds := now.micros_bounds
  rw [same, stored_row_of, ← same, reading]
  constructor
  · rintro ⟨stored, found⟩
    split at found
    · cases found
    · rename_i instant onCalendar
      exact Instant.of_micros_le onCalendar
  · intro early
    obtain ⟨instant, onCalendar⟩ := Instant.of_micros_is_some bounds.1 early
    rw [onCalendar]
    exact ⟨_, rfl⟩

theorem start_of_none (root : CensusRoot) :
    startOf root none = .ok ((maxRowInteger : Int), (maxRowInteger : Int)) := rfl

theorem listed_length {rows : List VoteRow} {packages : List StoredVotePackage}
    (found : storedAll rows = .ok packages) : packages.length = rows.length := by
  induction rows generalizing packages with
  | nil =>
      cases found
      rfl
  | cons row rest induction =>
      obtain ⟨first, others, -, areOthers, same⟩ := stored_all_cons_iff.mp found
      rw [same, List.length_cons, List.length_cons, induction areOthers]

theorem Sound.listed_iff {rows : List VoteRow} (sound : Sound rows) (root : CensusRoot) :
    (∃ listed, byRoot rows root = .ok listed) ↔
      ∀ row ∈ rows, row.root = root.bytes →
        row.insertedAt ≤ Instant.latestMicros ∧ row.insertionSeq ≤ maxRowInteger := by
  constructor
  · rintro ⟨listed, isListed⟩ row member rootEq
    obtain ⟨stored, integers, found, -⟩ := by_root_eq_ok_iff.mp isListed
    have inListing := mem_listing_iff.mpr ⟨member, rootEq⟩
    obtain ⟨package, -, isStored⟩ := stored_all_mem found inListing
    have integer := integers row inListing
    rw [VoteRow.hasIntegerSeq, decide_eq_true_eq] at integer
    exact ⟨(sound.written row member).stored_iff.mp ⟨package, isStored⟩, integer⟩
  · intro readable
    have integers : Integers (listing rows root) := by
      intro row member
      obtain ⟨inRows, rootEq⟩ := mem_listing_iff.mp member
      rw [VoteRow.hasIntegerSeq, decide_eq_true_eq]
      exact (readable row inRows rootEq).2
    have present : ∀ row ∈ listing rows root, ∃ stored, row.stored = .ok stored := by
      intro row member
      obtain ⟨inRows, rootEq⟩ := mem_listing_iff.mp member
      exact (sound.written row inRows).stored_iff.mpr (readable row inRows rootEq).1
    obtain ⟨packages, found⟩ := stored_all_readable present
    exact ⟨_, by_root_eq_ok_iff.mpr ⟨packages, integers, found, rfl⟩⟩

theorem quiet_requests_length (limits : Nat → Nat) (count : Nat) :
    (quietRequests limits count).length = count := by
  rw [quietRequests, List.length_map, List.length_range]

theorem mem_quiet_constant {limit count : Nat} {request : PageRequest}
    (member : request ∈ quietRequests (fun _ => limit) count) : request = ⟨[], limit⟩ := by
  rw [quietRequests, List.mem_map] at member
  obtain ⟨turn, -, same⟩ := member
  exact same.symm

def someRoot : CensusRoot := ⟨⟨List.replicate 32 7, by decide⟩⟩

def numbered (number : UInt8) : Submission where
  root := someRoot
  package :=
    { signature := ⟨List.replicate 64 0, by decide⟩, index := number.toUInt64
      publicKey := [number], merkleProof := [number], vote := [] }
  now := Instant.epoch

end CensusNode.VoteRows
