import CensusNode.Proofs.Ledger.Log

/-!
The steps of opening a ledger by its plain path. A file with rows has its journal settled and its
log opened. A file without bytes is moved to a log, whatever lay beside it is taken away.
-/

namespace CensusNode.Ledger

variable {session later : Session}

/-- A session that works by the plain path of a ledger on a file with the given contents. -/
structure Session.On (session : Session) (content : FileContent) : Prop where
  options : session.options = .defaults
  formed : session.disk.WellFormed
  named : session.disk.fileAt? session.location = some session.ledger.file
  content : session.content = content

/-- The journal of a ledger holds nothing that is still to be played back. -/
structure JournalSettled (location : Location) (disk : Disk) : Prop where
  free : disk.isDirectory (journalOf location) = false
  idle : ∀ found, disk.file? (journalOf location) = some found →
    found = FileContent.empty ∨ found.startsWithNull = true

theorem journal_settled_of_absent {location : Location} {disk : Disk}
    (free : disk.isDirectory (journalOf location) = false)
    (absent : disk.fileAt? (journalOf location) = none) : JournalSettled location disk where
  free := free
  idle found isFound := by
    rw [Disk.file?, absent] at isFound
    cases isFound

theorem Session.On.location_ne_nil {content : FileContent} (working : session.On content) :
    session.location ≠ [] := by
  intro isRoot
  have isDirectory : session.disk.isDirectory session.location = true := by
    rw [isRoot]
    rfl
  rw [working.formed.not_directory working.named] at isDirectory
  cases isDirectory

theorem companion_ne {location : Location} (nonempty : location ≠ []) {companion : Location}
    (member : companion ∈ companions location) : companion ≠ location := by
  simp only [companions, List.mem_cons, List.not_mem_nil, or_false] at member
  rcases member with isJournal | isLog | isIndex
  · rw [isJournal]
    exact beside_ne_self nonempty (by decide)
  · rw [isLog]
    exact beside_ne_self nonempty (by decide)
  · rw [isIndex]
    exact beside_ne_self nonempty (by decide)

theorem Session.On.keeps {content : FileContent} (working : session.On content) {disk : Disk}
    (formed : disk.WellFormed) (keeps : session.disk.Keeps (companions session.location) disk) :
    (session.withDisk disk).On content := by
  have outside : session.location ∉ companions session.location := fun member =>
    companion_ne working.location_ne_nil member rfl
  have named : disk.fileAt? session.location = some session.ledger.file :=
    (keeps.names _ outside).trans working.named
  have same := keeps.files _ outside
  rw [Disk.file_of_named working.named, Disk.file_of_named named] at same
  exact ⟨working.options, formed, named, (Option.some.inj same).trans working.content⟩

theorem Session.On.unlink {content : FileContent} (working : session.On content)
    {companion : Location} (member : companion ∈ companions session.location) :
    (session.withDisk (session.disk.unlink companion)).On content :=
  working.keeps working.formed.unlink (Disk.keeps_unlink session.disk member)

theorem Session.On.set_content {content : FileContent} (working : session.On content)
    (next : FileContent) :
    (session.withDisk (session.disk.setContent session.ledger.file next)).On next where
  options := working.options
  formed := working.formed.set_content
  named := working.named
  content := Disk.content_set_content_self (working.formed.in_range _ _ working.named)

theorem change_run (step : Session → Except DatabaseFault Session) :
    (Opening.change step).run session =
      match step session with
      | .ok later => .ok () later
      | .error fault => .error fault session := by
  simp only [Opening.change, EStateM.run_bind, EStateM.run_get]
  cases step session <;> rfl

theorem check_lock_eq (defaults : session.options = .defaults) : session.checkLock = .ok () := by
  simp [Session.checkLock, defaults, LedgerOptions.defaults]

/-- Once a file can be locked, its journal is settled, then its log, then its header is read. -/
theorem prepare_run (defaults : session.options = .defaults) :
    Opening.prepare.run session =
      match session.settleJournal with
      | .error fault => .error fault session
      | .ok settled =>
          (do Opening.settleLog; Opening.readHeader; Opening.moveToLog : Opening Unit).run
            settled := by
  have mutable : session.options.immutable = false := by rw [defaults]; rfl
  simp only [Opening.prepare, EStateM.run_bind, EStateM.run_get, mutable, Bool.false_eq_true,
    if_false, change_run, check_lock_eq defaults, Except.map]
  cases session.settleJournal <;> rfl

theorem settle_journal_spec {content : FileContent} (working : session.On content)
    (settled : session.settleJournal = .ok later) :
    ∃ disk, later = session.withDisk disk ∧ disk.WellFormed ∧
      session.disk.Keeps (companions session.location) disk ∧
      (content.hasPages = true → JournalSettled session.location disk) := by
  have member : journalOf session.location ∈ companions session.location := List.mem_cons_self
  have writes : session.options.access ≠ .readOnly := by
    rw [working.options]
    decide
  unfold Session.settleJournal at settled
  simp only [writes, decide_false, Bool.false_and, Bool.false_eq_true, if_false,
    working.content] at settled
  have stays := Disk.Keeps.refl (companions session.location) session.disk
  have removed (noDirectory : session.disk.isDirectory (journalOf session.location) = false) :
      JournalSettled session.location (session.disk.unlink (journalOf session.location)) :=
    journal_settled_of_absent noDirectory Disk.file_at_unlink_self
  split at settled
  · split at settled
    · cases settled
    · rename_i noPages
      cases settled
      exact ⟨_, rfl, working.formed, stays, fun pages => absurd pages noPages⟩
  · rename_i noDirectory
    rw [Bool.not_eq_true] at noDirectory
    have keeps := Disk.keeps_unlink session.disk member
    split at settled
    · rename_i absent
      cases settled
      rw [Disk.file_eq_none_iff] at absent
      exact ⟨_, rfl, working.formed, stays, fun _ => journal_settled_of_absent noDirectory absent⟩
    · rename_i isEmpty
      cases settled
      refine ⟨_, rfl, working.formed, stays, fun _ => ⟨noDirectory, ?_⟩⟩
      intro found isFound
      rw [isEmpty] at isFound
      exact Or.inl (Option.some.inj isFound).symm
    · rename_i other _ isOther
      split at settled
      · cases settled
        exact ⟨_, rfl, working.formed.unlink, keeps, fun _ => removed noDirectory⟩
      · split at settled
        · rename_i null
          cases settled
          refine ⟨_, rfl, working.formed, stays, fun _ => ⟨noDirectory, ?_⟩⟩
          intro found isFound
          rw [isOther] at isFound
          rw [← Option.some.inj isFound]
          exact Or.inr null
        · cases settled
          exact ⟨_, rfl, working.formed.unlink, keeps, fun _ => removed noDirectory⟩

theorem settle_journal_of_settled {content : FileContent} (working : session.On content)
    (pages : content.hasPages = true) (settled : JournalSettled session.location session.disk) :
    session.settleJournal = .ok session := by
  unfold Session.settleJournal
  simp only [settled.free, Bool.false_eq_true, if_false, working.content, pages, Bool.not_true]
  split
  · rfl
  · rfl
  · rename_i other notEmpty isOther
    rcases settled.idle other isOther with isEmpty | null
    · exact (notEmpty isEmpty).elim
    · rw [if_pos null]

def image (rows : List VoteRow) : FileContent := .ledger ⟨true, some rows⟩

@[simp] theorem image_logged (rows : List VoteRow) : (image rows).logged = .ok true := rfl

@[simp] theorem image_layout_fault (rows : List VoteRow) : (image rows).layoutFault? = none := rfl

@[simp] theorem image_frozen (rows : List VoteRow) : (image rows).frozen = false := rfl

@[simp] theorem image_has_pages (rows : List VoteRow) : (image rows).hasPages = true := rfl

@[simp] theorem image_has_table (rows : List VoteRow) : (image rows).hasTable = true := rfl

variable {rows : List VoteRow}

theorem LogOpened.on {content : FileContent} (opened : LogOpened session later)
    (working : session.On content) : later.On content := by
  have within : [logOf session.location, indexOf session.location] ⊆
      companions session.location := List.subset_cons_self ..
  have stays := working.keeps opened.formed (opened.keeps.mono within)
  refine ⟨opened.options.trans working.options, opened.formed, ?_, ?_⟩
  · rw [opened.location, opened.file]
    exact stays.named
  · rw [Session.content, opened.file]
    exact stays.content

theorem LogOpened.log_is_some (opened : LogOpened session later) :
    later.ledger.log.isNone = false := by
  obtain ⟨file, isLog, -⟩ := opened.logged.log
  rw [isLog]
  rfl

/-- With its log open there is nothing else to do before a ledger with rows can be read. -/
theorem rest_run (working : session.On (image rows)) (isOpen : session.ledger.log.isNone = false) :
    (do Opening.readHeader; Opening.moveToLog : Opening Unit).run session = .ok () session := by
  simp only [Opening.readHeader, Opening.moveToLog, EStateM.run_bind, EStateM.run_get,
    working.content, image_logged, isOpen, Bool.and_false, Bool.false_and, Bool.false_eq_true,
    if_false, image_layout_fault, image_frozen, EStateM.run_pure]

theorem header_run (working : session.On (image rows))
    (notOpen : session.ledger.log.isNone = true) :
    (do Opening.readHeader; Opening.moveToLog : Opening Unit).run session =
      Opening.openLog.run session := by
  have mutable : session.options.immutable = false := by rw [working.options]; rfl
  cases opened : Opening.openLog.run session with
  | error fault failed =>
      simp only [Opening.readHeader, EStateM.run_bind, EStateM.run_get, working.content,
        image_logged, notOpen, mutable, Bool.and_true, Bool.not_false, if_true, opened]
  | ok value later =>
      have after := log_opened working.options working.formed opened
      simp only [Opening.readHeader, Opening.moveToLog, EStateM.run_bind, EStateM.run_get,
        working.content, image_logged, notOpen, mutable, Bool.and_true, Bool.not_false, if_true,
        opened, (after.on working).content, image_layout_fault, image_frozen, after.log_is_some,
        Bool.and_false, Bool.false_eq_true, if_false, EStateM.run_pure]

/-- Whether its log is found or is made, it is opened once. -/
theorem settle_log_run (working : session.On (image rows))
    (notOpen : session.ledger.log.isNone = true) :
    (do Opening.settleLog; Opening.readHeader; Opening.moveToLog : Opening Unit).run session =
      Opening.openLog.run session := by
  have header := header_run working notOpen
  have early : (do Opening.openLog; Opening.readHeader; Opening.moveToLog : Opening Unit).run
      session = Opening.openLog.run session := by
    rw [EStateM.run_bind]
    cases opened : Opening.openLog.run session with
    | error fault failed => rfl
    | ok value later =>
        have after := log_opened working.options working.formed opened
        exact rest_run (after.on working) after.log_is_some
  have settle : Opening.settleLog.run session = Opening.openLog.run session ∨
      Opening.settleLog.run session = .ok () session := by
    simp only [Opening.settleLog, EStateM.run_bind, EStateM.run_get, working.content,
      image_has_pages, if_true]
    split
    · exact Or.inl rfl
    · split
      · exact Or.inl rfl
      · exact Or.inr rfl
  rcases settle with opens | stays
  · rw [EStateM.run_bind] at early ⊢
    rwa [opens]
  · rw [EStateM.run_bind, stays]
    exact header

theorem prepare_image (working : session.On (image rows))
    (notOpen : session.ledger.log.isNone = true) :
    Opening.prepare.run session =
      match session.settleJournal with
      | .error fault => .error fault session
      | .ok settled => Opening.openLog.run settled := by
  rw [prepare_run working.options]
  cases settling : session.settleJournal with
  | error fault => rfl
  | ok settled =>
      obtain ⟨disk, isSettled, formed, keeps, -⟩ := settle_journal_spec working settling
      rw [isSettled]
      exact settle_log_run (working.keeps formed keeps) notOpen

theorem ensure_table_run (working : session.On (image rows))
    (isOpen : session.ledger.log.isNone = false) :
    Opening.ensureTable.run session = .ok () session := by
  simp only [Opening.ensureTable, EStateM.run_bind, EStateM.run_get, working.content, isOpen,
    Bool.and_false, Bool.false_and, Bool.false_eq_true, if_false, image_has_table, if_true,
    EStateM.run_pure]

/-- A store is no ledger: whatever is settled before, its header is refused. -/
theorem prepare_store {store : Store} (working : session.On (.store store)) :
    Opening.prepare.run session ≠ .ok () later := by
  intro prepared
  have refuses {other : Session} (on : other.On (.store store)) :
      Opening.readHeader.run other = .error .notADatabase other := by
    have logged : (FileContent.store store).logged = .error .notADatabase := rfl
    simp only [Opening.readHeader, EStateM.run_bind, EStateM.run_get, on.content, logged,
      EStateM.run_throw]
  rw [prepare_run working.options] at prepared
  cases settling : session.settleJournal with
  | error fault =>
      rw [settling] at prepared
      cases prepared
  | ok settled =>
      obtain ⟨disk, isSettled, formed, keeps, -⟩ := settle_journal_spec working settling
      have first : settled.On (.store store) := by
        rw [isSettled]
        exact working.keeps formed keeps
      have pages : (FileContent.store store).hasPages = true := rfl
      rw [settling] at prepared
      simp only [EStateM.run_bind] at prepared
      cases settlingLog : Opening.settleLog.run settled with
      | error fault failed =>
          rw [settlingLog] at prepared
          cases prepared
      | ok value second =>
          have again : second.On (.store store) := by
            simp only [Opening.settleLog, EStateM.run_bind, EStateM.run_get, first.content, pages,
              if_true] at settlingLog
            split at settlingLog
            · exact (log_opened first.options first.formed settlingLog).on first
            · split at settlingLog
              · exact (log_opened first.options first.formed settlingLog).on first
              · cases settlingLog
                exact first
          rw [settlingLog] at prepared
          simp only [refuses again] at prepared
          cases prepared

/-- Before a new ledger is moved to a log, its file has no bytes and nothing of it is open. -/
structure Session.Fresh (session : Session) : Prop extends session.On FileContent.empty where
  writable : session.ledger.writable = true
  log : session.ledger.log = none

theorem settle_log_fresh (fresh : session.Fresh)
    (settled : Opening.settleLog.run session = .ok () later) :
    ∃ disk, later = session.withDisk disk ∧ (session.withDisk disk).Fresh ∧
      session.disk.Keeps (companions session.location) disk := by
  have member : logOf session.location ∈ companions session.location := by simp [companions]
  have noPages : FileContent.empty.hasPages = false := rfl
  simp only [Opening.settleLog, EStateM.run_bind, EStateM.run_get, fresh.content, noPages,
    Bool.false_eq_true, if_false] at settled
  split at settled
  · cases settled
  · split at settled
    · cases settled
      exact ⟨_, rfl, ⟨fresh.unlink member, fresh.writable, fresh.log⟩,
        Disk.keeps_unlink session.disk member⟩
    · cases settled
      exact ⟨_, rfl, fresh, Disk.Keeps.refl _ _⟩

theorem header_fresh (fresh : session.Fresh) :
    Opening.readHeader.run session = .ok () session := by
  have unlogged : FileContent.empty.logged = .ok false := rfl
  have readable : FileContent.empty.layoutFault? = none := rfl
  have current : FileContent.empty.frozen = false := rfl
  simp only [Opening.readHeader, EStateM.run_bind, EStateM.run_get, fresh.content, unlogged,
    Bool.false_and, Bool.false_eq_true, if_false, readable, current, EStateM.run_pure]

def bareImage : FileContent := .ledger ⟨true, none⟩

/-- A new ledger is moved to a log; a journal beside it is taken away. -/
theorem move_to_log_fresh (fresh : session.Fresh)
    (moved : Opening.moveToLog.run session = .ok () later) :
    ∃ disk, later = session.withDisk disk ∧ (session.withDisk disk).On bareImage ∧
      JournalSettled session.location disk ∧
      session.disk.Keeps (filesOf session.location) disk := by
  have allowed : session.allowsLog = true := by
    rw [Session.allowsLog, fresh.options]
    rfl
  simp only [Opening.moveToLog, EStateM.run_bind, EStateM.run_get, allowed, fresh.log,
    Option.isNone_none, Bool.and_true, if_true, fresh.writable, Bool.not_true, Bool.false_eq_true,
    if_false, change_run, Session.useJournal] at moved
  by_cases taken : (session.disk.isDirectory (journalOf session.location) ||
      nameTooLong (journalOf session.location)) = true
  · rw [if_pos taken] at moved
    cases moved
  · rw [if_neg taken] at moved
    rw [Bool.not_eq_true, Bool.or_eq_false_iff] at taken
    have companion : journalOf session.location ∈ companions session.location :=
      List.mem_cons_self
    have unlinked := fresh.unlink companion
    have switched : (session.withDisk
        (session.disk.unlink (journalOf session.location))).content.switchOnLog = bareImage := by
      rw [unlinked.content]
      rfl
    simp only [EStateM.run_modify, switched] at moved
    cases moved
    have member := journal_mem_files session.location
    have after := unlinked.set_content bareImage
    have keeps : session.disk.Keeps (filesOf session.location)
        (session.disk.unlink (journalOf session.location)) := Disk.keeps_unlink session.disk member
    refine ⟨_, rfl, after, ?_, keeps.trans ?_⟩
    · have absent : (session.disk.unlink (journalOf session.location)).fileAt?
          (journalOf session.location) = none := Disk.file_at_unlink_self
      exact journal_settled_of_absent taken.1 absent
    · exact Disk.keeps_set_content unlinked.formed unlinked.named List.mem_cons_self

end CensusNode.Ledger
