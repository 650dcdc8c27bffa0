import CensusNode.Proofs.Ledger.Page

/-!
Walks over the pages of a root. A walk asks for a first page without a cursor and for each later
one with the cursor of the one before, until a page has none; limits change from page to page, and
submissions arrive between them. What a walk has shown is the top of the listing down to its
cursor, and new rows never change what lies below: nothing is lost and nothing is repeated.
-/

namespace CensusNode

/-- A request for a page: the submissions that arrive before it, and its limit. -/
structure PageRequest where
  arrivals : List Submission
  limit : Nat

namespace VoteRows

open VoteRow

/-- The pages that requests get one after another, down to one without a cursor. -/
inductive Walk (config : LedgerConfig) (root : CensusRoot) :
    List VoteRow → Option String → List PageRequest → List (List StoredVotePackage) → Prop where
  | last {rows : List VoteRow} {cursor : Option String} {request : PageRequest}
      {packages : List StoredVotePackage}
      (shown : page config (submitAll rows request.arrivals) root cursor request.limit =
        .ok ⟨packages, none⟩) :
      Walk config root rows cursor [request] [packages]
  | more {rows : List VoteRow} {cursor : Option String} {request : PageRequest}
      {packages : List StoredVotePackage} {next : String} {requests : List PageRequest}
      {pages : List (List StoredVotePackage)}
      (shown : page config (submitAll rows request.arrivals) root cursor request.limit =
        .ok ⟨packages, some next⟩)
      (rest : Walk config root (submitAll rows request.arrivals) (some next) requests pages) :
      Walk config root rows cursor (request :: requests) (packages :: pages)

def rowsAfter (rows : List VoteRow) (requests : List PageRequest) : List VoteRow :=
  requests.foldl (fun rows request => submitAll rows request.arrivals) rows

theorem rows_after_extends (rows : List VoteRow) (requests : List PageRequest) :
    rows <+: rowsAfter rows requests := by
  induction requests generalizing rows with
  | nil => exact List.prefix_refl rows
  | cons request rest induction => exact (submit_all_extends _ _).trans (induction _)

theorem window_subset {rows later : List VoteRow} (grown : rows <+: later) (root : CensusRoot)
    (insertedAt insertionSeq : Int) :
    window rows root insertedAt insertionSeq ⊆ window later root insertedAt insertionSeq := by
  intro row member
  rw [mem_window_iff] at *
  exact ⟨⟨grown.subset member.1.1, member.1.2⟩, member.2⟩

theorem pairwise_append_below {front after later : List VoteRow} {row : VoteRow}
    (ordered : (front ++ row :: after).Pairwise Above) (below : ∀ other ∈ later, row.Above other)
    (laterOrdered : later.Pairwise Above) : (front ++ [row] ++ later).Pairwise Above := by
  rw [List.pairwise_append, List.pairwise_cons] at ordered
  obtain ⟨frontOrdered, -, frontAbove⟩ := ordered
  rw [List.pairwise_append, List.pairwise_append]
  refine ⟨⟨frontOrdered, List.pairwise_singleton _ _, ?_⟩, laterOrdered, ?_⟩
  · intro other member last isLast
    rw [List.mem_singleton.mp isLast]
    exact frontAbove other member row List.mem_cons_self
  · intro other member last isLater
    rcases List.mem_append.mp member with inFront | isRow
    · exact (frontAbove other inFront row List.mem_cons_self).trans (below last isLater)
    · rw [List.mem_singleton.mp isRow]
      exact below last isLater

/-- The invariant of a walk from a position on: it shows rows below the position in strict order,
and all those that were there when it set out. The induction follows the walk; after a page, the
position is that of the last row shown. -/
theorem Walk.shown {config : LedgerConfig} (valid : config.validate = .ok ()) {root : CensusRoot}
    {rows : List VoteRow} {cursor : Option String} {requests : List PageRequest}
    {pages : List (List StoredVotePackage)} (walk : Walk config root rows cursor requests pages)
    (sound : Sound rows) {start : Int × Int} (started : startOf root cursor = .ok start) :
    ∃ shown : List VoteRow, storedAll shown = .ok pages.flatten ∧ shown.Pairwise Above ∧
      shown ⊆ window (rowsAfter rows requests) root start.1 start.2 ∧
      window rows root start.1 start.2 ⊆ shown := by
  induction walk generalizing start with
  | @last rows cursor request packages shown =>
      have laterSound := sound.submit_all request.arrivals
      have grown := submit_all_extends rows request.arrivals
      rcases laterSound.page_cases valid started shown with
        ⟨-, -, -, found⟩ | ⟨front, row, rest, -, -, -, -, -, noCursor, -⟩
      · exact ⟨_, by rwa [List.flatten_singleton], laterSound.window_pairwise root _ _,
          List.Subset.refl _, window_subset grown root _ _⟩
      · cases noCursor
  | @more rows cursor request packages next requests pages shown rest induction =>
      have laterSound := sound.submit_all request.arrivals
      have grown := submit_all_extends rows request.arrivals
      rcases laterSound.page_cases valid started shown with
        ⟨noCursor, -⟩ | ⟨front, row, after, split, -, -, -, found, -, position⟩
      · cases noCursor
      · obtain ⟨later, laterFound, laterOrdered, laterWithin, laterAll⟩ :=
          induction laterSound position
        have ordered := laterSound.window_pairwise root start.1 start.2
        have regrouped : front ++ row :: after = (front ++ [row]) ++ after := by
          rw [List.append_assoc, List.singleton_append]
        have remaining := laterSound.window_after split
        have inWindow : ∀ other ∈ front ++ [row],
            other ∈ window (submitAll rows request.arrivals) root start.1 start.2 := by
          intro other member
          rw [split, regrouped]
          exact List.mem_append_left after member
        have rowBelow : row.isBelow start.1 start.2 = true :=
          (mem_window_iff.mp (inWindow row (by simp))).2
        rw [split] at ordered
        refine ⟨front ++ [row] ++ later, ?_, ?_, ?_, ?_⟩
        · rw [stored_all_append_iff]
          exact ⟨packages, pages.flatten, found, laterFound, rfl⟩
        · exact pairwise_append_below ordered
            (fun other member => (mem_window_iff.mp (laterWithin member)).2) laterOrdered
        · intro other member
          rcases List.mem_append.mp member with here | isLater
          · exact window_subset (rows_after_extends _ requests) root _ _ (inWindow other here)
          · have reached := mem_window_iff.mp (laterWithin isLater)
            exact mem_window_iff.mpr ⟨reached.1, is_below_of_above reached.2 rowBelow⟩
        · intro other member
          have kept := window_subset grown root _ _ member
          rw [split, regrouped] at kept
          rcases List.mem_append.mp kept with here | below
          · exact List.mem_append_left _ here
          · rw [← remaining] at below
            exact List.mem_append_right _ (laterAll below)

theorem apart_of_ne {rows : List VoteRow} (apart : rows.Pairwise Apart) {row other : VoteRow}
    (member : row ∈ rows) (otherMember : other ∈ rows) (different : row ≠ other) :
    Apart row other := by
  induction rows with
  | nil => cases member
  | cons first rest induction =>
      rw [List.pairwise_cons] at apart
      rcases List.mem_cons.mp member with isFirst | inRest
      · rcases List.mem_cons.mp otherMember with otherFirst | otherRest
        · exact absurd (isFirst.trans otherFirst.symm) different
        · rw [isFirst]
          exact apart.1 other otherRest
      · rcases List.mem_cons.mp otherMember with otherFirst | otherRest
        · have swapped := apart.1 row inRest
          rw [otherFirst]
          exact ⟨swapped.1.symm, swapped.2.1.symm, swapped.2.2.symm⟩
        · exact induction apart.2 inRest otherRest

/-- Rows in strict order have different indices. -/
theorem Sound.indices_nodup {rows shown : List VoteRow} (sound : Sound rows)
    (within : ∀ row ∈ shown, row ∈ rows) (ordered : shown.Pairwise Above) :
    (shown.map VoteRow.index).Nodup := by
  rw [List.Nodup, List.pairwise_map]
  apply ordered.imp_of_mem
  intro row other member otherMember above
  have different : row ≠ other := by
    intro same
    rw [same, Above, not_below_self] at above
    cases above
  exact (apart_of_ne sound.apart (within row member) (within other otherMember) different).1

end VoteRows

end CensusNode
