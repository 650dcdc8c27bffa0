import CensusNode.Proofs.Ledger.Opening

/-!
Opening a ledger in any way that its address may ask for. Whatever options there are, and whatever
lies beside the ledger file, an opening makes and takes away companions only, leaves alone every
other file that somebody has open, and neither adds nor drops a row. This is so at every step, and
when a step fails too.
-/

namespace CensusNode

namespace Disk

variable {disk : Disk} {location place : Location} {file : FileId}

/-- A name that leads to a file goes on leading to it when another file is made. -/
theorem file_at_file_for_of_named (made : Location) (named : disk.fileAt? place = some file) :
    (disk.fileFor made).2.fileAt? place = some file := by
  cases found : disk.fileAt? made with
  | some other => rw [file_for_of_named found, named]
  | none =>
      have different : place ≠ made := by
        intro same
        rw [same, found] at named
        cases named
      rw [file_for_of_free found, file_at_create_of_ne different, named]

theorem file_at_of_file_for {made : Location} (inRange : file < disk.contents.length)
    (named : (disk.fileFor made).2.fileAt? place = some file) :
    disk.fileAt? place = some file := by
  cases found : disk.fileAt? made with
  | some other =>
      rw [file_for_of_named found] at named
      exact named
  | none =>
      rw [file_for_of_free found] at named
      by_cases here : place = made
      · rw [here, file_at_create_self] at named
        exact absurd (Option.some.inj named) (Nat.ne_of_gt inRange)
      · rwa [file_at_create_of_ne here] at named

theorem WellFormed.file_ne (formed : disk.WellFormed) (named : disk.fileAt? location = some file)
    {other : FileId} (otherNamed : disk.fileAt? place = some other) (apart : place ≠ location) :
    other ≠ file := by
  intro same
  rw [same] at otherNamed
  exact apart (formed.single _ _ _ otherNamed named)

end Disk

namespace Ledger

/-- The companions of a ledger have come and gone, files that nobody has open have been written, and
the ledger file too. -/
structure Handled (location : Location) (file : FileId) (disk later : Disk) : Prop where
  formed : later.WellFormed
  working_directory : later.workingDirectory = disk.workingDirectory
  directories : later.directories = disk.directories
  held : later.held = disk.held
  longer : disk.contents.length ≤ later.contents.length
  names : ∀ place, place ∉ companions location → later.fileAt? place = disk.fileAt? place
  /-- No file that was there has a new name. -/
  old : ∀ place other, other < disk.contents.length → later.fileAt? place = some other →
    disk.fileAt? place = some other
  owned : ∀ other, other ≠ file → disk.isHeld other = true →
    later.content other = disk.content other
  /-- What lies neither in the place of the ledger nor beside it is as it was. -/
  elsewhere : ∀ place other, place ∉ filesOf location →
    disk.fileAt? place = some other → later.content other = disk.content other

namespace Handled

variable {location companion : Location} {file : FileId} {disk later last : Disk}

theorem refl (location : Location) (file : FileId) (formed : disk.WellFormed) :
    Handled location file disk disk :=
  ⟨formed, rfl, rfl, rfl, Nat.le_refl _, fun _ _ => rfl, fun _ _ _ named => named,
    fun _ _ _ => rfl, fun _ _ _ _ => rfl⟩

theorem is_held (handled : Handled location file disk later) (other : FileId) :
    later.isHeld other = disk.isHeld other := by
  rw [Disk.isHeld, handled.held, Disk.isHeld]

theorem trans (first : Handled location file disk later)
    (second : Handled location file later last) : Handled location file disk last where
  formed := second.formed
  working_directory := second.working_directory.trans first.working_directory
  directories := second.directories.trans first.directories
  held := second.held.trans first.held
  longer := Nat.le_trans first.longer second.longer
  names place outside := (second.names place outside).trans (first.names place outside)
  old place other inRange named := first.old place other inRange
    (second.old place other (Nat.lt_of_lt_of_le inRange first.longer) named)
  owned other different held := by
    have heldLater := held
    rw [← first.is_held] at heldLater
    exact (second.owned other different heldLater).trans (first.owned other different held)
  elsewhere place other outside named := by
    have stillNamed := named
    rw [← first.names place fun member => outside (List.mem_cons_of_mem _ member)] at stillNamed
    exact (second.elsewhere place other outside stillNamed).trans
      (first.elsewhere place other outside named)

theorem extended (handled : Handled location file disk later) : disk.Extends later where
  working_directory := handled.working_directory
  directories place isDirectory := by
    rw [Disk.isDirectory, handled.directories, ← Disk.isDirectory, isDirectory]

theorem of_unlink (file : FileId) (formed : disk.WellFormed)
    (member : companion ∈ companions location) :
    Handled location file disk (disk.unlink companion) where
  formed := formed.unlink
  working_directory := rfl
  directories := rfl
  held := rfl
  longer := Nat.le_refl _
  names _ outside := Disk.file_at_unlink_of_ne fun same => outside (same ▸ member)
  old _ _ _ named := Disk.file_at_of_unlink named
  owned _ _ _ := rfl
  elsewhere _ _ _ _ := rfl

theorem of_file_for (file : FileId) (formed : disk.WellFormed)
    (member : companion ∈ companions location) (free : disk.isDirectory companion = false) :
    Handled location file disk (disk.fileFor companion).2 where
  formed := formed.file_for free
  working_directory := (Disk.keeps_file_for formed member).working_directory
  directories := (Disk.keeps_file_for formed member).directories
  held := disk.held_file_for companion
  longer := disk.length_file_for companion
  names place outside := (Disk.keeps_file_for formed member).names place outside
  old _ _ inRange named := Disk.file_at_of_file_for inRange named
  owned other _ _ := disk.content_file_for companion other
  elsewhere _ other _ _ := disk.content_file_for companion other

/-- The ledger file may be written, and so may the file of a companion that nobody has open. -/
theorem of_set_content (formed : disk.WellFormed) {place : Location} {written : FileId}
    (named : disk.fileAt? place = some written) (inside : place ∈ filesOf location)
    (spared : written = file ∨ disk.isHeld written = false) (content : FileContent) :
    Handled location file disk (disk.setContent written content) where
  formed := formed.set_content
  working_directory := rfl
  directories := rfl
  held := rfl
  longer := Nat.le_of_eq List.length_set.symm
  names _ _ := rfl
  old _ _ _ named := named
  owned other different held := by
    apply Disk.content_set_content_of_ne
    intro same
    rcases spared with isFile | unheld
    · exact different (same.trans isFile)
    · rw [← same, held] at unheld
      cases unheld
  elsewhere other found outside otherNamed := by
    apply Disk.content_set_content_of_ne
    apply formed.file_ne named otherNamed
    intro same
    rw [same] at outside
    exact outside inside

end Handled

variable {location : Location} {file log : FileId} {disk : Disk} {ledger : OpenLedger}

theorem journal_mem_companions (location : Location) :
    journalOf location ∈ companions location := by
  simp [companions]

theorem log_mem_companions (location : Location) : logOf location ∈ companions location := by
  simp [companions]

theorem index_mem_companions (location : Location) : indexOf location ∈ companions location := by
  simp [companions]

/-- The index is started in a file that nobody has open, or is left alone. -/
theorem start_index_handled (formed : disk.WellFormed)
    (free : disk.isDirectory (indexOf location) = false) :
    Handled location file disk (startIndex disk (indexOf location)) := by
  have made := Handled.of_file_for file formed (index_mem_companions location) free
  rw [startIndex]
  simp only
  split
  · exact made
  · rename_i unheld
    rw [Bool.not_eq_true] at unheld
    exact made.trans (Handled.of_set_content made.formed (disk.file_at_file_for (indexOf location))
      (index_mem_files location) (Or.inr unheld) _)

theorem start_index_named {index place : Location} (named : disk.fileAt? place = some log) :
    (startIndex disk index).fileAt? place = some log := by
  have still := Disk.file_at_file_for_of_named index named
  rw [startIndex]
  simp only
  split <;> exact still

theorem start_index_content {index : Location} (formed : disk.WellFormed)
    (free : disk.isDirectory index = false) (named : disk.fileAt? location = some file)
    (apart : location ≠ index) : (startIndex disk index).content file = disk.content file := by
  have still := Disk.file_at_file_for_of_named index named
  have different := (formed.file_for free).file_ne (disk.file_at_file_for index) still apart
  rw [startIndex]
  simp only
  split
  · exact disk.content_file_for index file
  · rw [Disk.content_set_content_of_ne different, disk.content_file_for index file]

theorem put_rows_handled (formed : disk.WellFormed) (named : disk.fileAt? location = some file)
    (isFile : ledger.file = file)
    (logs : ∀ log, ledger.log = some log → disk.fileAt? (logOf location) = some log)
    (rows : List VoteRow) : Handled location file disk (ledger.putRows disk rows) := by
  rw [← isFile] at named
  have written := Handled.of_set_content formed named List.mem_cons_self (Or.inl isFile)
    ((disk.content ledger.file).withRows rows)
  rw [OpenLedger.putRows, OpenLedger.markLog]
  split
  · exact written
  · rename_i log isLog
    split
    · exact written
    · rename_i unheld
      rw [Bool.not_eq_true] at unheld
      exact written.trans (Handled.of_set_content written.formed (logs log isLog)
        (log_mem_files location) (Or.inr unheld) _)

theorem put_rows_file_at (rows : List VoteRow) (place : Location) :
    (ledger.putRows disk rows).fileAt? place = disk.fileAt? place := by
  rw [OpenLedger.putRows, OpenLedger.markLog]
  split
  · rfl
  · split <;> rfl

/-- Whatever else is written, the ledger file holds the rows that were put into it. -/
theorem put_rows_content (inRange : ledger.file < disk.contents.length)
    (apart : ∀ log, ledger.log = some log → ledger.file ≠ log) (rows : List VoteRow) :
    (ledger.putRows disk rows).content ledger.file =
      (disk.content ledger.file).withRows rows := by
  have written : (disk.setContent ledger.file
      ((disk.content ledger.file).withRows rows)).content ledger.file =
        (disk.content ledger.file).withRows rows := Disk.content_set_content_self inRange
  rw [OpenLedger.putRows, OpenLedger.markLog]
  split
  · exact written
  · rename_i log isLog
    split
    · exact written
    · rw [Disk.content_set_content_of_ne (apart log isLog), written]

/-- The contents of a ledger file while it is opened: the rows stay, and so does a store in the
place of a ledger. -/
structure Carries (content later : FileContent) : Prop where
  rows : later.rows = content.rows
  store : ∀ store, content = .store store → later = .store store

theorem rows_of_no_table {content : FileContent} (noTable : content.hasTable = false) :
    content.rows = [] := by
  cases content with
  | store store => rfl
  | raw bytes => rfl
  | ledger image =>
      obtain ⟨logged, rows⟩ := image
      cases rows with
      | none => rfl
      | some rows => cases noTable

theorem Carries.refl (content : FileContent) : Carries content content := ⟨rfl, fun _ same => same⟩

theorem Carries.switch_on_log {content later : FileContent} (carries : Carries content later) :
    Carries content later.switchOnLog where
  rows := by
    rw [← carries.rows]
    cases later with
    | store store => rfl
    | ledger image => cases image with | mk logged rows => cases rows <;> rfl
    | raw bytes =>
        rw [FileContent.switchOnLog]
        split <;> rfl
  store store isStore := by
    rw [carries.store store isStore]
    rfl

variable {start : Disk} {content : FileContent} {session later : Session}

/-- A session on a ledger file that held the given contents when it began. -/
structure Session.Since (start : Disk) (place : Location) (own : FileId) (content : FileContent)
    (session : Session) : Prop where
  location : session.location = place
  file : session.ledger.file = own
  begun : start.fileAt? place = some own
  apart : place ∉ companions place
  handled : Handled place own start session.disk
  log : ∀ log, session.ledger.log = some log → session.disk.fileAt? (logOf place) = some log
  leftovers : session.ledger.leftovers ⊆ companions place
  carries : Carries content (session.disk.content own)

namespace Session.Since

theorem named (since : session.Since start location file content) :
    session.disk.fileAt? location = some file :=
  (since.handled.names location since.apart).trans since.begun

theorem companion_ne (since : session.Since start location file content) {companion : Location}
    (member : companion ∈ companions location) : companion ≠ location := by
  intro same
  rw [same] at member
  exact since.apart member

theorem content_eq (since : session.Since start location file content) :
    session.content = session.disk.content file := by
  rw [Session.content, since.file]

theorem with_disk (since : session.Since start location file content) {disk : Disk}
    (handled : Handled location file session.disk disk)
    (log : ∀ log, session.disk.fileAt? (logOf location) = some log →
      session.ledger.log = some log → disk.fileAt? (logOf location) = some log)
    (carries : Carries content (disk.content file)) :
    (session.withDisk disk).Since start location file content where
  location := since.location
  file := since.file
  begun := since.begun
  apart := since.apart
  handled := since.handled.trans handled
  log found isLog := log found (since.log found isLog) isLog
  leftovers := since.leftovers
  carries := carries

theorem unlink_journal (since : session.Since start location file content) :
    (session.withDisk (session.disk.unlink (journalOf session.location))).Since
      start location file content := by
  rw [since.location]
  apply since.with_disk
  · exact .of_unlink file since.handled.formed (journal_mem_companions location)
  · intro log named _
    have different : logOf location ≠ journalOf location := beside_ne (by decide)
    rw [Disk.file_at_unlink_of_ne different, named]
  · exact since.carries

/-- The log may be taken away while it is not open. -/
theorem unlink_log (since : session.Since start location file content)
    (notOpen : session.ledger.log = none) :
    (session.withDisk (session.disk.unlink (logOf session.location))).Since
      start location file content := by
  rw [since.location]
  apply since.with_disk
  · exact .of_unlink file since.handled.formed (log_mem_companions location)
  · intro log _ isLog
    rw [notOpen] at isLog
    cases isLog
  · exact since.carries

theorem set_content (since : session.Since start location file content) {next : FileContent}
    (carries : Carries content next) :
    (session.withDisk (session.disk.setContent session.ledger.file next)).Since
      start location file content := by
  rw [since.file]
  apply since.with_disk
  · exact .of_set_content since.handled.formed since.named List.mem_cons_self (Or.inl rfl) next
  · exact fun _ named _ => named
  · rwa [Disk.content_set_content_self (since.handled.formed.in_range _ _ since.named)]

theorem log_apart (since : session.Since start location file content) {log : FileId}
    (isLog : session.ledger.log = some log) : session.ledger.file ≠ log := by
  rw [since.file]
  exact since.handled.formed.file_ne (since.log log isLog) since.named
    (since.companion_ne (log_mem_companions location)).symm

end Session.Since

namespace Opening

/-- The session after a step, whether the step went well or not. -/
def after {α : Type} (step : Opening α) (session : Session) : Session :=
  match step.run session with
  | .ok _ later => later
  | .error _ later => later

variable {α β : Type}

theorem after_of_ok {step : Opening α} {value : α} (ran : step.run session = .ok value later) :
    step.after session = later := by
  rw [after, ran]

@[simp] theorem after_get_bind (next : Session → Opening β) :
    after (get >>= next) session = after (next session) session := rfl

@[simp] theorem after_set_bind (next : Unit → Opening β) :
    after (set later >>= next) session = after (next ()) later := rfl

@[simp] theorem after_throw (fault : DatabaseFault) :
    after (throw fault : Opening β) session = session := rfl

@[simp] theorem after_throw_bind (fault : DatabaseFault) (next : α → Opening β) :
    after ((throw fault : Opening α) >>= next) session = session := rfl

@[simp] theorem after_set : after (set later : Opening Unit) session = later := rfl

@[simp] theorem after_pure (value : α) : after (pure value : Opening α) session = session := rfl

@[simp] theorem after_modify (change : Session → Session) :
    after (modify change : Opening Unit) session = change session := rfl

/-- What holds after a step and is kept by what follows holds after both. -/
theorem after_bind_of {good : Session → Prop} {step : Opening α} {next : α → Opening β}
    (first : good (step.after session))
    (second : ∀ value later, step.run session = .ok value later → good later →
      good ((next value).after later)) : good ((step >>= next).after session) := by
  rw [after, EStateM.run_bind]
  rw [after] at first
  cases ran : step.run session with
  | ok value later =>
      rw [ran] at first
      exact second value later ran first
  | error fault later =>
      rw [ran] at first
      exact first

theorem run_get_bind (next : Session → Opening β) :
    (get >>= next).run session = (next session).run session := rfl

theorem run_bind_eq_ok {step : Opening α} {next : α → Opening β} {value : β}
    (ran : (step >>= next).run session = .ok value later) :
    ∃ first middle, step.run session = .ok first middle ∧
      (next first).run middle = .ok value later := by
  rw [EStateM.run_bind] at ran
  cases first : step.run session with
  | ok answer middle =>
      rw [first] at ran
      exact ⟨answer, middle, rfl, ran⟩
  | error fault middle =>
      rw [first] at ran
      cases ran

/-- A change that is not made ends the steps where they were. -/
theorem after_change_bind_of {good : Session → Prop}
    {step : Session → Except DatabaseFault Session} {next : Unit → Opening β} (stays : good session)
    (second : ∀ later, step session = .ok later → good ((next ()).after later)) :
    good ((change step >>= next).after session) := by
  rw [after, EStateM.run_bind, change_run]
  cases stepped : step session with
  | ok later => exact second later stepped
  | error fault => exact stays

/-- What is left of reading the header once the log is open. -/
def readLayout : Opening Unit := do
  let session ← get
  match session.content.layoutFault? with
  | some fault => throw fault
  | none =>
      if session.content.frozen then
        set { session with ledger := { session.ledger with writable := false } }

theorem read_header_eq : readHeader = (do
    let session ← get
    match session.content.logged with
    | .error fault => throw fault
    | .ok logged =>
        if logged && session.ledger.log.isNone && !session.options.immutable then openLog
    readLayout) := rfl

def putTable (session : Session) : Opening Unit := do
  if session.ledger.log.isNone then change Session.useJournal
  modify fun session => session.withDisk (session.ledger.putRows session.disk [])

/-- What is left of adding a missing table once the log is open. -/
def addTable : Opening Unit := do
  let session ← get
  unless session.content.hasTable do
    if !session.ledger.writable then throw .readOnly
    match session.content.tableFault? with
    | some fault => throw fault
    | none => pure ()
    putTable session

theorem ensure_table_eq : ensureTable = (do
    let session ← get
    if session.content.logged.toOption = some true && session.ledger.log.isNone &&
        !session.options.immutable then openLog
    addTable) := rfl

end Opening

theorem change_eq_ok {step : Session → Except DatabaseFault Session} {value : Unit}
    (ran : (Opening.change step).run session = .ok value later) : step session = .ok later := by
  rw [change_run] at ran
  cases stepped : step session with
  | ok last =>
      rw [stepped] at ran
      cases ran
      rfl
  | error fault =>
      rw [stepped] at ran
      cases ran

theorem check_lock_run
    (checked : (session.checkLock.map fun _ => session : Except DatabaseFault Session) =
      .ok later) : later = session := by
  cases checking : session.checkLock with
  | ok value =>
      rw [checking] at checked
      exact (Except.ok.inj checked).symm
  | error fault =>
      rw [checking] at checked
      cases checked

theorem use_journal_content (used : session.useJournal = .ok later) :
    later.content = session.content := by
  unfold Session.useJournal at used
  simp only at used
  split at used
  · cases used
  · cases used
    rfl

namespace Session.Since

variable (since : session.Since start location file content)

include since

theorem settle_journal (settled : session.settleJournal = .ok later) :
    later.Since start location file content ∧ later.ledger = session.ledger := by
  have removed := since.unlink_journal
  unfold Session.settleJournal at settled
  simp only at settled
  split at settled
  · split at settled
    · cases settled
    · cases settled
      exact ⟨since, rfl⟩
  · split at settled
    · cases settled
      exact ⟨since, rfl⟩
    · cases settled
      exact ⟨since, rfl⟩
    · split at settled
      · cases settled
        split
        · exact ⟨since, rfl⟩
        · exact ⟨removed, rfl⟩
      · split at settled
        · cases settled
          exact ⟨since, rfl⟩
        · split at settled
          · cases settled
          · cases settled
            exact ⟨removed, rfl⟩

theorem use_journal (used : session.useJournal = .ok later) :
    later.Since start location file content ∧ later.ledger = session.ledger := by
  unfold Session.useJournal at used
  simp only at used
  split at used
  · cases used
  · cases used
    exact ⟨since.unlink_journal, rfl⟩

theorem open_index {reliable : Bool} (opened : session.openIndex = .ok (reliable, later)) :
    later.Since start location file content ∧ later.ledger = session.ledger ∧
      ∀ place log, session.disk.fileAt? place = some log →
        later.disk.fileAt? place = some log := by
  have unchanged : session.Since start location file content ∧ session.ledger = session.ledger ∧
      ∀ place log, session.disk.fileAt? place = some log →
        session.disk.fileAt? place = some log := ⟨since, rfl, fun _ _ named => named⟩
  unfold Session.openIndex at opened
  simp only at opened
  split at opened
  · cases opened
    exact unchanged
  · split at opened
    · split at opened
      · cases opened
        exact unchanged
      · cases opened
    · split at opened
      · cases opened
        exact unchanged
      · rename_i noDirectory
        cases opened
        rw [Bool.not_eq_true, since.location] at noDirectory
        have started : (session.withDisk (startIndex session.disk (indexOf location))).Since
            start location file content := by
          apply since.with_disk (start_index_handled since.handled.formed noDirectory)
          · exact fun _ named _ => start_index_named named
          · rw [start_index_content since.handled.formed noDirectory since.named
              (since.companion_ne (index_mem_companions location)).symm]
            exact since.carries
        rw [since.location]
        exact ⟨started, rfl, fun _ _ named => start_index_named named⟩

theorem open_log : (Opening.openLog.after session).Since start location file content := by
  simp only [Opening.openLog, Opening.after_get_bind]
  split
  · exact since
  · rename_i usable
    simp only [Bool.or_eq_true, not_or, Bool.not_eq_true] at usable
    have noDirectory := usable.2
    have made : (session.withDisk (session.disk.fileFor (logOf session.location)).2).Since
        start location file content := by
      rw [since.location] at noDirectory ⊢
      apply since.with_disk
      · exact .of_file_for file since.handled.formed (log_mem_companions location) noDirectory
      · exact fun _ named _ => Disk.file_at_file_for_of_named _ named
      · rw [Disk.content_file_for]
        exact since.carries
    simp only [Opening.after_set_bind]
    split
    · exact made
    · rename_i reliable later opened
      obtain ⟨after, sameLedger, names⟩ := made.open_index opened
      split
      · exact made
      · have logNamed := names _ _ (session.disk.file_at_file_for (logOf session.location))
        rw [since.location] at logNamed ⊢
        simp only [Opening.after_set]
        constructor
        · exact after.location
        · exact after.file
        · exact after.begun
        · exact after.apart
        · exact after.handled
        · intro log isLog
          rw [← Option.some.inj isLog]
          exact logNamed
        · change (if _ then _ else _ : List Location) ⊆ companions location
          rw [after.location]
          split
          · exact List.nil_subset _
          · split
            · exact List.cons_subset.mpr ⟨log_mem_companions location, List.nil_subset _⟩
            · exact List.subset_cons_self ..
        · exact after.carries

/-- The log is taken away only while it is not open. -/
theorem settle_log (notOpen : session.ledger.log = none) :
    (Opening.settleLog.after session).Since start location file content := by
  simp only [Opening.settleLog, Opening.after_get_bind]
  split
  · split
    · exact since.open_log
    · exact since
  · split
    · split
      · exact since.open_log
      · exact since.unlink_log notOpen
    · exact since

theorem only_reading : ({ session with
    ledger := { session.ledger with writable := false } } : Session).Since
      start location file content := { since with }

theorem read_layout : (Opening.readLayout.after session).Since start location file content := by
  simp only [Opening.readLayout, Opening.after_get_bind]
  split
  · exact since
  · split
    · exact since.only_reading
    · exact since

theorem read_header : (Opening.readHeader.after session).Since start location file content := by
  simp only [Opening.read_header_eq, Opening.after_get_bind]
  split
  · exact since
  · split
    · exact Opening.after_bind_of since.open_log fun _ _ _ after => after.read_layout
    · exact since.read_layout

theorem move_to_log : (Opening.moveToLog.after session).Since start location file content := by
  simp only [Opening.moveToLog, Opening.after_get_bind]
  split
  · split
    · exact since
    · apply Opening.after_change_bind_of since
      intro later used
      have after := (since.use_journal used).1
      apply after.set_content
      rw [after.content_eq]
      exact after.carries.switch_on_log
  · exact since

theorem prepare (notOpen : session.ledger.log = none) :
    (Opening.prepare.after session).Since start location file content := by
  have reading {later : Session} (after : later.Since start location file content) :
      ((do Opening.readHeader; Opening.moveToLog : Opening Unit).after later).Since
        start location file content :=
    Opening.after_bind_of after.read_header fun _ _ _ after => after.move_to_log
  simp only [Opening.prepare, Opening.after_get_bind]
  split
  · exact reading since
  · apply Opening.after_change_bind_of since
    intro same checked
    rw [check_lock_run checked]
    apply Opening.after_change_bind_of since
    intro settled settling
    obtain ⟨after, sameLedger⟩ := since.settle_journal settling
    rw [← sameLedger] at notOpen
    exact Opening.after_bind_of (after.settle_log notOpen) fun _ _ _ after => reading after

/-- The table that is added has no rows, as there were none without it. -/
theorem add_table (noStore : ∀ store, content ≠ .store store)
    (noTable : session.content.hasTable = false) :
    (session.withDisk (session.ledger.putRows session.disk [])).Since
        start location file content ∧
      (session.withDisk (session.ledger.putRows session.disk [])).content.hasTable = true := by
  have inRange : session.ledger.file < session.disk.contents.length := by
    rw [since.file]
    exact since.handled.formed.in_range _ _ since.named
  have holds := put_rows_content inRange (fun _ isLog => since.log_apart isLog) []
  refine ⟨since.with_disk (put_rows_handled since.handled.formed since.named since.file
    since.log []) ?_ ?_, ?_⟩
  · intro log named _
    rw [put_rows_file_at, named]
  · rw [since.file] at holds
    rw [holds]
    refine ⟨?_, fun store isStore => absurd isStore (noStore store)⟩
    rw [← since.carries.rows, ← since.content_eq, rows_of_no_table noTable]
    rfl
  · rw [Session.content, Session.withDisk, holds]
    rfl

theorem put_table (noStore : ∀ store, content ≠ .store store)
    (noTable : session.content.hasTable = false) :
    ((Opening.putTable session).after session).Since start location file content := by
  rw [Opening.putTable]
  split
  · apply Opening.after_change_bind_of since
    intro later used
    rw [← use_journal_content used] at noTable
    exact ((since.use_journal used).1.add_table noStore noTable).1
  · exact (since.add_table noStore noTable).1

theorem add_missing_table (noStore : ∀ store, content ≠ .store store) :
    (Opening.addTable.after session).Since start location file content := by
  simp only [Opening.addTable, Opening.after_get_bind]
  split
  · exact since
  · rename_i noTable
    rw [Bool.not_eq_true] at noTable
    split
    · exact since
    · split
      · exact since
      · exact since.put_table noStore noTable

theorem ensure_table (noStore : ∀ store, content ≠ .store store) :
    (Opening.ensureTable.after session).Since start location file content := by
  simp only [Opening.ensure_table_eq, Opening.after_get_bind]
  split
  · exact Opening.after_bind_of since.open_log fun _ _ _ after => after.add_missing_table noStore
  · exact since.add_missing_table noStore

theorem header_of_store (noted : Opening.readHeader.run session = .ok () later)
    (store : Store) : content ≠ .store store := by
  intro isStore
  have holds := since.carries.store store isStore
  rw [← since.content_eq] at holds
  simp only [Opening.readHeader, Opening.run_get_bind, holds, FileContent.logged] at noted
  cases noted

theorem prepare_ok (notOpen : session.ledger.log = none)
    (prepared : Opening.prepare.run session = .ok () later) (store : Store) :
    content ≠ .store store := by
  have reading {middle : Session} (after : middle.Since start location file content)
      (ran : (do Opening.readHeader; Opening.moveToLog : Opening Unit).run middle = .ok () later) :
      content ≠ .store store := by
    obtain ⟨_, last, noted, -⟩ := Opening.run_bind_eq_ok ran
    exact after.header_of_store noted store
  simp only [Opening.prepare, Opening.run_get_bind] at prepared
  split at prepared
  · exact reading since prepared
  · obtain ⟨_, checked, checking, afterLock⟩ := Opening.run_bind_eq_ok prepared
    obtain ⟨_, settled, settling, afterJournal⟩ := Opening.run_bind_eq_ok afterLock
    obtain ⟨_, middle, settlingLog, afterLog⟩ := Opening.run_bind_eq_ok afterJournal
    rw [check_lock_run (change_eq_ok checking)] at settling
    obtain ⟨after, sameLedger⟩ := since.settle_journal (change_eq_ok settling)
    rw [← sameLedger] at notOpen
    -- The header is read at the end, with the content carried along all the steps before.
    have ready := after.settle_log notOpen
    rw [Opening.after_of_ok settlingLog] at ready
    exact reading ready afterLog

theorem put_table_ok (noStore : ∀ store, content ≠ .store store)
    (noTable : session.content.hasTable = false)
    (put : (Opening.putTable session).run session = .ok () later) :
    later.content.hasTable = true := by
  rw [Opening.putTable] at put
  split at put
  · rw [EStateM.run_bind, change_run] at put
    cases used : session.useJournal with
    | error fault =>
        rw [used] at put
        cases put
    | ok middle =>
        rw [← use_journal_content used] at noTable
        rw [used] at put
        cases put
        exact ((since.use_journal used).1.add_table noStore noTable).2
  · cases put
    exact (since.add_table noStore noTable).2

theorem add_missing_table_ok (noStore : ∀ store, content ≠ .store store)
    (added : Opening.addTable.run session = .ok () later) : later.content.hasTable = true := by
  simp only [Opening.addTable, Opening.run_get_bind] at added
  split at added
  · rename_i hasTable
    cases added
    exact hasTable
  · rename_i noTable
    rw [Bool.not_eq_true] at noTable
    split at added
    · cases added
    · split at added
      · cases added
      · exact since.put_table_ok noStore noTable added

theorem ensure_table_ok (noStore : ∀ store, content ≠ .store store)
    (ensured : Opening.ensureTable.run session = .ok () later) :
    later.content.hasTable = true := by
  simp only [Opening.ensure_table_eq, Opening.run_get_bind] at ensured
  split at ensured
  · obtain ⟨_, middle, opened, added⟩ := Opening.run_bind_eq_ok ensured
    have after := since.open_log
    rw [Opening.after_of_ok opened] at after
    exact after.add_missing_table_ok noStore added
  · exact since.add_missing_table_ok noStore ensured

end Session.Since

end Ledger

end CensusNode
