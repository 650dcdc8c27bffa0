import CensusNode.Proofs.Disk.Keeps
import CensusNode.Proofs.Ledger.Location

/-!
The log of a ledger. A ledger that is opened by its plain path gets a log with an index beside it,
unless something that is no log stands in their places.
-/

namespace CensusNode.Ledger

def filesOf (location : Location) : List Location := location :: companions location

theorem log_mem_files (location : Location) : logOf location ∈ filesOf location := by
  simp [filesOf, companions]

theorem index_mem_files (location : Location) : indexOf location ∈ filesOf location := by
  simp [filesOf, companions]

theorem journal_mem_files (location : Location) : journalOf location ∈ filesOf location := by
  simp [filesOf, companions]

/-- The disk once the index of a log has been started, unless its file is in use as a store. -/
def startIndex (disk : Disk) (index : Location) : Disk :=
  let (file, disk) := disk.fileFor index
  if disk.isHeld file then disk else disk.setContent file (.raw indexMark)

section

variable {disk : Disk} {index : Location}

theorem start_index_keeps (formed : disk.WellFormed) (free : disk.isDirectory index = false)
    {places : List Location} (inside : index ∈ places) :
    disk.Keeps places (startIndex disk index) := by
  have made := Disk.keeps_file_for formed inside
  rw [startIndex]
  simp only
  split
  · exact made
  · exact made.trans
      (Disk.keeps_set_content (formed.file_for free) (disk.file_at_file_for index) inside)

theorem start_index_well_formed (formed : disk.WellFormed)
    (free : disk.isDirectory index = false) : (startIndex disk index).WellFormed := by
  rw [startIndex]
  simp only
  split
  · exact formed.file_for free
  · exact (formed.file_for free).set_content

theorem start_index_is_some (disk : Disk) (index : Location) :
    ((startIndex disk index).fileAt? index).isSome = true := by
  have named := disk.file_at_file_for index
  rw [startIndex]
  simp only
  split
  · rw [named]
    rfl
  · change ((disk.fileFor index).2.fileAt? index).isSome = true
    rw [named]
    rfl

end

/-- The log of an open ledger has been made. It is to be written and taken away unless a directory
stands in the place of its index. -/
structure Logged (location : Location) (disk : Disk) (ledger : OpenLedger) : Prop where
  log : ∃ file, ledger.log = some file ∧ disk.fileAt? (logOf location) = some file
  index : disk.isDirectory (indexOf location) = false →
    (disk.fileAt? (indexOf location)).isSome = true
  leftovers : ledger.leftovers =
    if disk.isDirectory (indexOf location) then [] else [logOf location, indexOf location]
  idle : disk.isDirectory (indexOf location) = true →
    disk.file? (logOf location) = some FileContent.empty

structure LogOpened (session later : Session) : Prop where
  options : later.options = session.options
  location : later.location = session.location
  file : later.ledger.file = session.ledger.file
  writable : later.ledger.writable =
    (session.ledger.writable && !session.disk.isDirectory (indexOf session.location))
  formed : later.disk.WellFormed
  keeps : session.disk.Keeps [logOf session.location, indexOf session.location] later.disk
  logged : Logged session.location later.disk later.ledger

theorem is_empty_iff (content : FileContent) :
    content.isEmpty = true ↔ content = FileContent.empty := by
  unfold FileContent.isEmpty FileContent.empty
  split
  · simp
  · rename_i other
    simp only [Bool.false_eq_true, false_iff]
    exact other

variable {session later : Session}

theorem open_index_eq (defaults : session.options = .defaults) (disk : Disk) :
    (session.withDisk disk).openIndex =
      .ok (if disk.isDirectory (indexOf session.location) then (false, session.withDisk disk)
        else (true, session.withDisk (startIndex disk (indexOf session.location)))) := by
  simp only [Session.openIndex, Session.withDisk, defaults, LedgerOptions.defaults, reduceCtorEq,
    if_false, Bool.false_eq_true]
  split <;> rfl

theorem open_log_run (defaults : session.options = .defaults) :
    Opening.openLog.run session =
      let log := logOf session.location
      let index := indexOf session.location
      let (file, disk) := session.disk.fileFor log
      if session.disk.isDirectory log then .error .cannotOpenCompanion session
      else if disk.isDirectory index then
        if (disk.content file).isEmpty then
          .ok () { session with
            disk, ledger := ⟨session.ledger.file, false, some file, []⟩ }
        else .error .lockingProtocol (session.withDisk disk)
      else
        .ok () { session with
          disk := startIndex disk index
          ledger := ⟨session.ledger.file, session.ledger.writable, some file, [log, index]⟩ } := by
  have allowed : session.allowsLog = true := by
    rw [Session.allowsLog, defaults]
    rfl
  simp only [Opening.openLog, EStateM.run_bind, EStateM.run_get, allowed, Bool.not_true,
    Bool.false_or]
  split
  · rfl
  · simp only [EStateM.run_bind, EStateM.run_set, open_index_eq defaults]
    split
    · simp only [Bool.not_false, Bool.true_and, Bool.not_eq_true', Session.withDisk]
      cases ((session.disk.fileFor (logOf session.location)).2.content
          (session.disk.fileFor (logOf session.location)).1).isEmpty with
      | false => rfl
      | true => simp [EStateM.run_set]
    · simp [EStateM.run_set, Session.withDisk, defaults, LedgerOptions.defaults]

theorem log_opened (defaults : session.options = .defaults) (formed : session.disk.WellFormed)
    (opened : Opening.openLog.run session = .ok () later) : LogOpened session later := by
  have first : logOf session.location ∈ [logOf session.location, indexOf session.location] :=
    List.mem_cons_self
  have logged := Disk.keeps_file_for formed first
  have named := session.disk.file_at_file_for (logOf session.location)
  rw [open_log_run defaults] at opened
  simp only at opened
  split at opened
  · cases opened
  · rename_i noDirectory
    rw [Bool.not_eq_true] at noDirectory
    have logFormed := formed.file_for noDirectory
    split at opened
    · rename_i isDirectory
      split at opened
      · rename_i isEmpty
        cases opened
        rw [is_empty_iff] at isEmpty
        have before := isDirectory
        rw [logged.is_directory] at before
        constructor
        · rfl
        · rfl
        · rfl
        · simp [before]
        · exact logFormed
        · exact logged
        · constructor
          · exact ⟨_, rfl, named⟩
          · intro free
            rw [isDirectory] at free
            cases free
          · exact (if_pos isDirectory).symm
          · intro _
            rw [Disk.file_of_named named, isEmpty]
      · cases opened
    · rename_i noIndex
      cases opened
      have before := noIndex
      rw [logged.is_directory] at before
      rw [Bool.not_eq_true] at noIndex
      have only : indexOf session.location ∈ [indexOf session.location] := List.mem_cons_self
      have started := start_index_keeps logFormed noIndex only
      have apart : logOf session.location ∉ [indexOf session.location] := by
        rw [List.mem_singleton]
        exact beside_ne (by decide)
      constructor
      · rfl
      · rfl
      · rfl
      · simp [before]
      · exact start_index_well_formed logFormed noIndex
      · exact logged.trans (started.mono (List.subset_cons_self ..))
      · constructor
        · exact ⟨_, rfl, (started.names _ apart).trans named⟩
        · intro _
          exact start_index_is_some _ _
        · rw [started.is_directory, if_neg (by simp [noIndex])]
        · intro isDirectory
          rw [started.is_directory, noIndex] at isDirectory
          cases isDirectory

end CensusNode.Ledger
