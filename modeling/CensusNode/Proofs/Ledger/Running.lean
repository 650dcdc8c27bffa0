import CensusNode.Proofs.Ledger.Opening

/-!
Ledgers in use. A ledger that was opened by its plain path is in use from then on: its rows lie in
its file, its log was made for it, and nothing is left to be settled. Closing it takes its log
away, and opening it again finds the rows that it had.
-/

namespace CensusNode.Ledger

variable {session later : Session} {rows : List VoteRow}

/-- A ledger is in use with the given rows: its file holds them, its log was made, and nothing is
left in its journal. It takes rows unless a directory stands in the place of the index. -/
structure Running (location : Location) (disk : Disk) (ledger : OpenLedger) (rows : List VoteRow) :
    Prop where
  named : disk.fileAt? location = some ledger.file
  holds : disk.file? location = some (image rows)
  writable : ledger.writable = !disk.isDirectory (indexOf location)
  journal : JournalSettled location disk
  logged : Logged location disk ledger

namespace Running

variable {location : Location} {disk after : Disk} {ledger : OpenLedger}

theorem content (running : Running location disk ledger rows) :
    disk.content ledger.file = image rows := by
  have holds := running.holds
  rw [Disk.file_of_named running.named] at holds
  exact Option.some.inj holds

theorem rows_eq (running : Running location disk ledger rows) : ledger.rows disk = rows := by
  rw [OpenLedger.rows, Disk.rowsAt, running.content]
  rfl

/-- A ledger stays in use while nothing happens to its files and no directory takes the place of
its journal. -/
theorem spared (running : Running location disk ledger rows) (formed : after.WellFormed)
    (extended : disk.Extends after)
    (names : ∀ place ∈ filesOf location, after.fileAt? place = disk.fileAt? place)
    (files : ∀ place ∈ filesOf location, after.file? place = disk.file? place)
    (journal : after.isDirectory (journalOf location) = false) :
    Running location after ledger rows := by
  have logNames := names _ (log_mem_files location)
  have indexNames := names _ (index_mem_files location)
  have index : after.isDirectory (indexOf location) = disk.isDirectory (indexOf location) := by
    cases isDirectory : disk.isDirectory (indexOf location) with
    | true => exact extended.directories _ isDirectory
    | false =>
        obtain ⟨file, named⟩ := Option.isSome_iff_exists.mp (running.logged.index isDirectory)
        exact formed.not_directory (indexNames.trans named)
  constructor
  · exact (names _ List.mem_cons_self).trans running.named
  · exact (files _ List.mem_cons_self).trans running.holds
  · rw [index]
    exact running.writable
  · refine ⟨journal, ?_⟩
    rw [files _ (journal_mem_files location)]
    exact running.journal.idle
  · constructor
    · rw [logNames]
      exact running.logged.log
    · rw [index, indexNames]
      exact running.logged.index
    · rw [index]
      exact running.logged.leftovers
    · rw [index, files _ (log_mem_files location)]
      exact running.logged.idle

end Running

theorem LogOpened.settled (opened : LogOpened session later)
    (settled : JournalSettled session.location session.disk) :
    JournalSettled session.location later.disk := by
  have outside : journalOf session.location ∉
      [logOf session.location, indexOf session.location] := by
    simp only [List.mem_cons, List.not_mem_nil, or_false, not_or]
    exact ⟨beside_ne (by decide), beside_ne (by decide)⟩
  constructor
  · rw [opened.keeps.is_directory]
    exact settled.free
  · rw [opened.keeps.files _ outside]
    exact settled.idle

theorem LogOpened.keeps_files (opened : LogOpened session later) :
    session.disk.Keeps (filesOf session.location) later.disk := by
  apply opened.keeps.mono
  intro place member
  exact List.mem_cons_of_mem _ (List.mem_cons_of_mem _ member)

theorem LogOpened.running (opened : LogOpened session later) (working : session.On (image rows))
    (writes : session.ledger.writable = true)
    (settled : JournalSettled session.location session.disk) :
    Running session.location later.disk later.ledger rows := by
  have stays := opened.on working
  have named := stays.named
  rw [opened.location] at named
  constructor
  · exact named
  · have content : later.disk.content later.ledger.file = image rows := stays.content
    rw [Disk.file_of_named named, content]
  · rw [opened.writable, writes, Bool.true_and, opened.keeps.is_directory]
  · exact opened.settled settled
  · exact opened.logged

section

variable {location : Location} {disk : Disk} {ledger : OpenLedger}

theorem companion_ne_named (formed : disk.WellFormed)
    (named : disk.fileAt? location = some ledger.file) {companion : Location}
    (member : companion ∈ companions location) : companion ≠ location := by
  apply companion_ne _ member
  intro isRoot
  have isDirectory : disk.isDirectory location = true := by
    rw [isRoot]
    rfl
  rw [formed.not_directory named] at isDirectory
  cases isDirectory

theorem put_rows_keeps (formed : disk.WellFormed)
    (named : disk.fileAt? location = some ledger.file) (logged : Logged location disk ledger)
    (content : (disk.content ledger.file).logged = .ok true) (rows : List VoteRow) :
    (ledger.putRows disk rows).WellFormed ∧
      (∀ place, (ledger.putRows disk rows).fileAt? place = disk.fileAt? place) ∧
      disk.Keeps [location, logOf location] (ledger.putRows disk rows) ∧
      (ledger.putRows disk rows).file? location = some (image rows) := by
  obtain ⟨log, isLog, logNamed⟩ := logged.log
  have different : location ≠ logOf location :=
    (companion_ne_named formed named (by simp [companions])).symm
  have written : (disk.content ledger.file).withRows rows = image rows := by
    rw [FileContent.withRows, content]
    rfl
  have first : disk.Keeps [location, logOf location]
      (disk.setContent ledger.file (image rows)) :=
    Disk.keeps_set_content formed named List.mem_cons_self
  have holds : (disk.setContent ledger.file (image rows)).file? location = some (image rows) :=
    Disk.file_set_content_self formed named
  rw [OpenLedger.putRows, written, OpenLedger.markLog, isLog]
  simp only
  split
  · exact ⟨formed.set_content, fun _ => rfl, first, holds⟩
  · have after : (disk.setContent ledger.file (image rows)).WellFormed := formed.set_content
    have logStays : (disk.setContent ledger.file (image rows)).fileAt? (logOf location) =
        some log := logNamed
    refine ⟨after.set_content, fun _ => rfl, first.trans ?_, ?_⟩
    · exact Disk.keeps_set_content after logStays (by simp)
    · rw [Disk.file_set_content_of_ne after logStays different, holds]

theorem put_rows_running (formed : disk.WellFormed)
    (named : disk.fileAt? location = some ledger.file) (logged : Logged location disk ledger)
    (content : (disk.content ledger.file).logged = .ok true)
    (settled : JournalSettled location disk)
    (reliable : disk.isDirectory (indexOf location) = false) (writes : ledger.writable = true)
    (rows : List VoteRow) : Running location (ledger.putRows disk rows) ledger rows := by
  obtain ⟨-, names, keeps, holds⟩ := put_rows_keeps formed named logged content rows
  have outside : journalOf location ∉ [location, logOf location] := by
    simp only [List.mem_cons, List.not_mem_nil, or_false, not_or]
    exact ⟨companion_ne_named formed named List.mem_cons_self, beside_ne (by decide)⟩
  have after : (ledger.putRows disk rows).isDirectory (indexOf location) = false := by
    rw [keeps.is_directory, reliable]
  constructor
  · rw [names, named]
  · exact holds
  · rw [writes, after]
    rfl
  · constructor
    · rw [keeps.is_directory, settled.free]
    · rw [keeps.files _ outside]
      exact settled.idle
  · constructor
    · rw [names]
      exact logged.log
    · intro _
      rw [names]
      exact logged.index reliable
    · rw [after, logged.leftovers, reliable]
    · intro isDirectory
      rw [after] at isDirectory
      cases isDirectory

end

/-- A new ledger gets its table through the log, which has to be opened first. -/
theorem ensure_table_bare (working : session.On bareImage)
    (notOpen : session.ledger.log.isNone = true) (writes : session.ledger.writable = true)
    (settled : JournalSettled session.location session.disk)
    (ensured : Opening.ensureTable.run session = .ok () later) :
    Running session.location later.disk later.ledger [] ∧ later.disk.WellFormed ∧
      session.disk.Keeps (filesOf session.location) later.disk := by
  have mutable : session.options.immutable = false := by rw [working.options]; rfl
  have logged : bareImage.logged = .ok true := rfl
  have noTable : bareImage.hasTable = false := rfl
  have fits : bareImage.tableFault? = none := rfl
  simp only [Opening.ensureTable, EStateM.run_bind, EStateM.run_get, working.content, logged,
    notOpen, mutable, Except.toOption, decide_true, Bool.and_true, Bool.not_false, if_true]
    at ensured
  cases opening : Opening.openLog.run session with
  | error fault failed =>
      rw [opening] at ensured
      cases ensured
  | ok value opened =>
      have after := log_opened working.options working.formed opening
      have stays := after.on working
      simp only [opening, stays.content, noTable, Bool.false_eq_true, if_false] at ensured
      cases written : opened.ledger.writable with
      | false =>
          simp only [written, Bool.not_false, if_true, EStateM.run_bind, EStateM.run_throw]
            at ensured
          cases ensured
      | true =>
          have reliable := after.writable
          rw [written, writes, Bool.true_and] at reliable
          have noDirectory : opened.disk.isDirectory (indexOf session.location) = false := by
            rw [after.keeps.is_directory]
            simpa using reliable.symm
          simp only [written, Bool.not_true, Bool.false_eq_true, if_false, fits,
            after.log_is_some, EStateM.run_modify] at ensured
          cases ensured
          have named := stays.named
          rw [after.location] at named
          have bare : (opened.disk.content opened.ledger.file).logged = .ok true := by
            have content : opened.disk.content opened.ledger.file = bareImage := stays.content
            rw [content]
            rfl
          obtain ⟨formed, -, keeps, -⟩ :=
            put_rows_keeps after.formed named after.logged bare []
          have within : [session.location, logOf session.location] ⊆ filesOf session.location := by
            simp [filesOf, companions]
          refine ⟨?_, formed, after.keeps_files.trans (keeps.mono within)⟩
          exact put_rows_running after.formed named after.logged bare (after.settled settled)
            noDirectory written []

/-- Opening a file of no bytes by its plain path makes a ledger without rows. -/
theorem open_fresh {middle : Session} (fresh : session.Fresh)
    (prepared : Opening.prepare.run session = .ok () middle)
    (ensured : Opening.ensureTable.run middle = .ok () later) :
    Running session.location later.disk later.ledger [] ∧ later.disk.WellFormed ∧
      session.disk.Keeps (filesOf session.location) later.disk := by
  rw [prepare_run fresh.options] at prepared
  cases settling : session.settleJournal with
  | error fault =>
      rw [settling] at prepared
      cases prepared
  | ok settled =>
      obtain ⟨disk, isSettled, formed, keeps, -⟩ := settle_journal_spec fresh.toOn settling
      have first : settled.Fresh := by
        rw [isSettled]
        exact ⟨fresh.keeps formed keeps, fresh.writable, fresh.log⟩
      rw [settling] at prepared
      simp only [EStateM.run_bind] at prepared
      cases settlingLog : Opening.settleLog.run settled with
      | error fault failed =>
          rw [settlingLog] at prepared
          cases prepared
      | ok value second =>
          obtain ⟨another, isSecond, again, keepsLog⟩ := settle_log_fresh first settlingLog
          rw [← isSecond] at again
          rw [settlingLog] at prepared
          simp only [header_fresh again] at prepared
          obtain ⟨last, isMiddle, working, noJournal, keepsFiles⟩ :=
            move_to_log_fresh again prepared
          subst isSettled isSecond isMiddle
          have noLog : session.ledger.log.isNone = true := by rw [fresh.log]; rfl
          obtain ⟨running, formedLater, keepsLater⟩ :=
            ensure_table_bare working noLog fresh.writable noJournal ensured
          have before := (keeps.trans keepsLog).mono
            (List.subset_cons_self session.location (companions session.location))
          exact ⟨running, formedLater, (before.trans keepsFiles).trans keepsLater⟩

/-- Opening a file with rows by its plain path finds these rows. -/
theorem open_image {middle : Session} (working : session.On (image rows))
    (notOpen : session.ledger.log = none) (writes : session.ledger.writable = true)
    (prepared : Opening.prepare.run session = .ok () middle)
    (ensured : Opening.ensureTable.run middle = .ok () later) :
    Running session.location later.disk later.ledger rows ∧ later.disk.WellFormed ∧
      session.disk.Keeps (filesOf session.location) later.disk := by
  rw [prepare_image working (by rw [notOpen]; rfl)] at prepared
  cases settling : session.settleJournal with
  | error fault =>
      rw [settling] at prepared
      cases prepared
  | ok settled =>
      obtain ⟨disk, isSettled, formed, keeps, journal⟩ := settle_journal_spec working settling
      subst isSettled
      rw [settling] at prepared
      have stays := working.keeps formed keeps
      have after := log_opened stays.options stays.formed prepared
      have unchanged := ensure_table_run (after.on stays) after.log_is_some
      rw [unchanged] at ensured
      cases ensured
      have before := keeps.mono
        (List.subset_cons_self session.location (companions session.location))
      exact ⟨after.running stays writes (journal (image_has_pages rows)), after.formed,
        before.trans after.keeps_files⟩

variable {disk : Disk} {path : String} {location : Location} {config : LedgerConfig}

theorem find_file_eq (located : locate disk path = some location)
    (free : disk.isDirectory location = false) :
    findFile disk path path .defaults =
      match disk.fileAt? location with
      | some file => (.ok (location, file), disk)
      | none =>
          if disk.isDirectory location.tail then
            (.ok (location, (disk.create location FileContent.empty).1),
              (disk.create location FileContent.empty).2)
          else (.error (.cannotOpen path), disk) := by
  have modelled : lacksModel disk .defaults = false := rfl
  have creates : LedgerOptions.defaults.access = .create := rfl
  cases found : disk.fileAt? location <;>
    simp only [findFile, located, modelled, Bool.false_eq_true, if_false, free, creates,
      decide_true, Bool.true_and, found]

theorem find_file_spec {file : FileId} {after : Disk}
    (found : findFile disk path path .defaults = (.ok (location, file), after)) :
    locate disk path = some location ∧ disk.isDirectory location = false ∧
      disk.fileFor location = (file, after) := by
  cases located : locate disk path with
  | none =>
      rw [findFile, located] at found
      cases found
  | some place =>
      cases isDirectory : disk.isDirectory place with
      | true =>
          have modelled : lacksModel disk .defaults = false := rfl
          simp only [findFile, located, modelled, Bool.false_eq_true, if_false, isDirectory,
            if_true] at found
          cases found
      | false =>
          rw [find_file_eq located isDirectory] at found
          cases named : disk.fileAt? place with
          | some other =>
              rw [named] at found
              cases found
              exact ⟨rfl, isDirectory, Disk.file_for_of_named named⟩
          | none =>
              rw [named] at found
              simp only at found
              split at found
              · cases found
                refine ⟨rfl, isDirectory, ?_⟩
                rw [Disk.fileFor, named]
              · cases found

theorem file_for_content (good : FileContent → Prop) (isEmpty : good FileContent.empty)
    (own : ∀ content, disk.file? location = some content → good content) :
    good ((disk.fileFor location).2.content (disk.fileFor location).1) := by
  cases named : disk.fileAt? location with
  | some file =>
      rw [Disk.file_for_of_named named]
      exact own _ (Disk.file_of_named named)
  | none =>
      have holds := Disk.file_file_for_of_free named
      rw [Disk.file_of_named (disk.file_at_file_for location)] at holds
      rw [Option.some.inj holds]
      exact isEmpty

/-- What a service leaves in a file: no bytes yet, a store, or a ledger with rows. -/
def IsOwn (content : FileContent) : Prop :=
  content = FileContent.empty ∨ (∃ store, content = .store store) ∨ ∃ rows, content = image rows

/-- A ledger that could be opened by its plain path is in use, with the rows that an earlier ledger
left in its file or with none. -/
theorem open_file_running {ledger : OpenLedger} {after : Disk} (formed : disk.WellFormed)
    (own : ∀ place content, locate disk path = some place → disk.file? place = some content →
      IsOwn content)
    (opened : openFile disk path path .defaults config = (.done ledger, after)) :
    ∃ location rows, locate disk path = some location ∧ Running location after ledger rows ∧
      after.WellFormed ∧ disk.Keeps (filesOf location) after ∧
      config.busyTimeout.millis ≤ busyTimeoutLimit := by
  unfold openFile at opened
  cases finding : findFile disk path path .defaults with
  | mk answer made =>
      rw [finding] at opened
      cases answer with
      | error fault => cases opened
      | ok found =>
          obtain ⟨location, file⟩ := found
          obtain ⟨located, free, isFile⟩ := find_file_spec finding
          have contents := file_for_content _ (Or.inl rfl) (own location · located)
          have named := disk.file_at_file_for location
          have madeFormed := formed.file_for free
          have inside : location ∈ filesOf location := List.mem_cons_self
          have keeps := Disk.keeps_file_for formed inside
          rw [isFile] at contents named madeFormed keeps
          simp only at opened
          split at opened
          · cases opened
          · rename_i middle prepared
            split at opened
            · cases opened
            · rename_i inTime
              split at opened
              · cases opened
              · rename_i session ensured
                cases opened
                rcases contents with isEmpty | ⟨store, isStore⟩ | ⟨rows, isImage⟩
                · have fresh : Session.Fresh ⟨made, .defaults, location, ⟨file, true, none, []⟩⟩ :=
                    ⟨⟨rfl, madeFormed, named, isEmpty⟩, rfl, rfl⟩
                  obtain ⟨running, laterFormed, laterKeeps⟩ := open_fresh fresh prepared ensured
                  exact ⟨location, [], located, running, laterFormed, keeps.trans laterKeeps,
                    by omega⟩
                · have working : Session.On ⟨made, .defaults, location, ⟨file, true, none, []⟩⟩
                      (.store store) := ⟨rfl, madeFormed, named, isStore⟩
                  exact absurd prepared (prepare_store working)
                · have working : Session.On ⟨made, .defaults, location, ⟨file, true, none, []⟩⟩
                      (image rows) := ⟨rfl, madeFormed, named, isImage⟩
                  obtain ⟨running, laterFormed, laterKeeps⟩ :=
                    open_image working rfl rfl prepared ensured
                  exact ⟨location, rows, located, running, laterFormed, keeps.trans laterKeeps,
                    by omega⟩

/-- The log of a ledger that was closed is gone, or holds nothing. -/
structure LogIdle (location : Location) (disk : Disk) : Prop where
  free : disk.isDirectory (logOf location) = false
  idle : ∀ found, disk.file? (logOf location) = some found → found = FileContent.empty

/-- Closing a ledger takes its log and the index away, if they were written at all. -/
theorem Running.close {ledger : OpenLedger} (running : Running location disk ledger rows)
    (formed : disk.WellFormed) :
    (ledger.close disk).WellFormed ∧
      disk.Keeps [logOf location, indexOf location] (ledger.close disk) ∧
      LogIdle location (ledger.close disk) := by
  obtain ⟨log, -, logNamed⟩ := running.logged.log
  have free := formed.not_directory logNamed
  rw [OpenLedger.close, running.logged.leftovers]
  cases isDirectory : disk.isDirectory (indexOf location) with
  | true =>
      refine ⟨formed, Disk.Keeps.refl _ disk, free, ?_⟩
      intro found isFound
      have idle := running.logged.idle isDirectory
      change disk.file? (logOf location) = some found at isFound
      rw [idle] at isFound
      exact (Option.some.inj isFound).symm
  | false =>
      have first : logOf location ∈ [logOf location, indexOf location] := List.mem_cons_self
      have second : indexOf location ∈ [logOf location, indexOf location] :=
        List.mem_cons_of_mem _ List.mem_cons_self
      have noLog := Disk.keeps_unlink disk first
      have noIndex := Disk.keeps_unlink (disk.unlink (logOf location)) second
      have apart : logOf location ≠ indexOf location := beside_ne (by decide)
      refine ⟨formed.unlink.unlink, noLog.trans noIndex, free, ?_⟩
      intro found isFound
      change ((disk.unlink (logOf location)).unlink (indexOf location)).file? (logOf location) =
        some found at isFound
      rw [Disk.file_unlink_of_ne apart, Disk.file?, Disk.file_at_unlink_self] at isFound
      cases isFound

/-- Restarting a ledger does not show: its log and the index are there before and after. -/
theorem Running.alike {ledger again : OpenLedger} {after : Disk} {laterRows : List VoteRow}
    (running : Running location disk ledger rows) (formed : disk.WellFormed)
    (reopened : Running location after again laterRows) (afterFormed : after.WellFormed)
    (within : disk.Within [logOf location, indexOf location] after) :
    Disk.Alike [logOf location, indexOf location] disk after := by
  apply within.alike
  intro place member
  rw [List.mem_cons, List.mem_singleton] at member
  rcases member with isLog | isIndex
  · obtain ⟨log, -, named⟩ := running.logged.log
    obtain ⟨other, -, otherNamed⟩ := reopened.logged.log
    rw [isLog, named, otherNamed]
    rfl
  · rw [isIndex]
    cases isDirectory : disk.isDirectory (indexOf location) with
    | true =>
        have still := within.is_directory (indexOf location)
        rw [isDirectory] at still
        rw [formed.no_file _ isDirectory, afterFormed.no_file _ still]
    | false =>
        have still := within.is_directory (indexOf location)
        rw [isDirectory] at still
        rw [running.logged.index isDirectory, reopened.logged.index still]

theorem open_log_idle (defaults : session.options = .defaults)
    (idle : LogIdle session.location session.disk) :
    ∃ later, Opening.openLog.run session = .ok () later := by
  have isEmpty : ((session.disk.fileFor (logOf session.location)).2.content
      (session.disk.fileFor (logOf session.location)).1) = FileContent.empty :=
    file_for_content (· = FileContent.empty) rfl idle.idle
  rw [open_log_run defaults]
  simp only [idle.free, Bool.false_eq_true, if_false]
  split
  · rw [isEmpty]
    exact ⟨_, rfl⟩
  · exact ⟨_, rfl⟩

theorem open_file_again {file : FileId} (formed : disk.WellFormed)
    (located : locate disk path = some location) (named : disk.fileAt? location = some file)
    (holds : disk.file? location = some (image rows)) (settled : JournalSettled location disk)
    (idle : LogIdle location disk) (inTime : config.busyTimeout.millis ≤ busyTimeoutLimit) :
    ∃ ledger after, openFile disk path path .defaults config = (.done ledger, after) ∧
      Running location after ledger rows ∧ after.WellFormed ∧
      disk.Keeps [logOf location, indexOf location] after := by
  have found : findFile disk path path .defaults = (.ok (location, file), disk) := by
    rw [find_file_eq located (formed.not_directory named), named]
  have content : disk.content file = image rows := by
    rw [Disk.file_of_named named] at holds
    exact Option.some.inj holds
  have working : Session.On ⟨disk, .defaults, location, ⟨file, true, none, []⟩⟩ (image rows) :=
    ⟨rfl, formed, named, content⟩
  obtain ⟨later, opened⟩ := open_log_idle working.options idle
  have after := log_opened working.options formed opened
  have prepared := prepare_image working rfl
  rw [settle_journal_of_settled working (image_has_pages rows) settled] at prepared
  have ensured := ensure_table_run (after.on working) after.log_is_some
  have slow : ¬busyTimeoutLimit < config.busyTimeout.millis := by omega
  have begun : (!LedgerOptions.defaults.readOnly) = true := rfl
  refine ⟨later.ledger, later.disk, ?_, after.running working rfl settled, after.formed,
    after.keeps⟩
  simp only [openFile, found, begun, prepared, opened, if_neg slow, ensured]

end CensusNode.Ledger
