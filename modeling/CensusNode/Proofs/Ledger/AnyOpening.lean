import CensusNode.Proofs.Disk.Follow
import CensusNode.Proofs.Ledger.Handling

/-!
What any opening of a ledger comes to. The file that its address leads to is found or made, it keeps
its rows whether the opening goes well or not, and a ledger that was opened stands on it until it is
closed. A store that somebody has open is no ledger and stays as it is.
-/

namespace CensusNode.Ledger

variable {disk after start : Disk} {path target : String} {options : LedgerOptions}
  {config : LedgerConfig} {location : Location} {file : FileId} {content : FileContent}
  {session : Session} {ledger : OpenLedger}

theorem follow_of_resolve {found : Location} {segments : List String}
    (resolved : resolve disk location segments = some found) :
    found = Disk.follow location segments := by
  induction segments generalizing location with
  | nil => exact (Option.some.inj resolved).symm
  | cons segment rest induction =>
      rw [Disk.follow_cons, Disk.step]
      rw [resolve] at resolved
      split at resolved
      · rename_i self
        rw [if_pos self]
        exact induction resolved
      · rename_i notSelf
        rw [if_neg notSelf]
        split at resolved
        · rename_i back
          rw [if_pos back]
          exact induction resolved
        · rename_i forward
          rw [if_neg forward]
          split at resolved
          · cases resolved
          · split at resolved
            · cases resolved
            · split at resolved
              · cases resolved
              · exact induction resolved

def ledgerPlace (disk : Disk) (target : String) : Location :=
  Disk.follow (disk.origin target) (Path.segments target)

theorem ledger_place_of_locate (located : locate disk target = some location) :
    location = ledgerPlace disk target := by
  rw [locate] at located
  split at located
  · cases located
  · rename_i found resolved
    split at located
    · cases located
    · rw [← Option.some.inj located]
      exact follow_of_resolve resolved

theorem ledger_place_extends (extended : disk.Extends after) (target : String) :
    ledgerPlace after target = ledgerPlace disk target := by
  rw [ledgerPlace, extended.origin, ledgerPlace]

/-- The file of a ledger is found or is made, or nothing happens. -/
theorem find_file_cases (disk : Disk) (path target : String) (options : LedgerOptions) :
    (∃ fault, findFile disk path target options = (.error fault, disk)) ∨
      disk.isDirectory (ledgerPlace disk target) = false ∧
        findFile disk path target options =
          (.ok (ledgerPlace disk target, (disk.fileFor (ledgerPlace disk target)).1),
            (disk.fileFor (ledgerPlace disk target)).2) := by
  rw [findFile]
  split
  · exact Or.inl ⟨_, rfl⟩
  · rename_i location located
    rw [← ledger_place_of_locate located]
    split
    · exact Or.inl ⟨_, rfl⟩
    · split
      · exact Or.inl ⟨_, rfl⟩
      · rename_i free
        rw [Bool.not_eq_true] at free
        split
        · rename_i file named
          exact Or.inr ⟨free, by rw [Disk.file_for_of_named named]⟩
        · rename_i absent
          split
          · exact Or.inr ⟨free, by rw [Disk.fileFor, absent]⟩
          · exact Or.inl ⟨_, rfl⟩

/-- An open ledger stands on its file: the log it uses lies beside it, and so does whatever goes
with it when it is closed. -/
structure Stands (place : Location) (disk : Disk) (ledger : OpenLedger) : Prop where
  named : disk.fileAt? place = some ledger.file
  apart : place ∉ companions place
  log : ∀ log, ledger.log = some log → disk.fileAt? (logOf place) = some log
  leftovers : ledger.leftovers ⊆ companions place

theorem Session.Since.stands (since : session.Since start location file content) :
    Stands location session.disk session.ledger where
  named := by
    rw [since.file]
    exact since.named
  apart := since.apart
  log := since.log
  leftovers := since.leftovers

theorem unlink_all_handled (file : FileId) (formed : disk.WellFormed) {places : List Location}
    (within : places ⊆ companions location) :
    Handled location file disk (places.foldl Disk.unlink disk) ∧
      ∀ other, (places.foldl Disk.unlink disk).content other = disk.content other := by
  induction places generalizing disk with
  | nil => exact ⟨.refl location file formed, fun _ => rfl⟩
  | cons place rest induction =>
      rw [List.cons_subset] at within
      have first := Handled.of_unlink file formed within.1
      obtain ⟨handled, same⟩ := induction first.formed within.2
      exact ⟨first.trans handled, same⟩

theorem Stands.close (stands : Stands location disk ledger) (formed : disk.WellFormed) :
    Handled location ledger.file disk (ledger.close disk) ∧
      ∀ other, (ledger.close disk).content other = disk.content other :=
  unlink_all_handled ledger.file formed stands.leftovers

/-- The file at a place after an opening, whether that went well or not. Before, it may not have
been there. -/
structure Visited (place : Location) (disk after : Disk) (file : FileId) : Prop where
  formed : after.WellFormed
  extended : disk.Extends after
  held : after.held = disk.held
  longer : disk.contents.length ≤ after.contents.length
  named : after.fileAt? place = some file
  /-- The file is the one that was there, if there was one. -/
  same : ∀ other, disk.fileAt? place = some other → other = file
  old : ∀ another other, other < disk.contents.length → after.fileAt? another = some other →
    disk.fileAt? another = some other
  carries : Carries (disk.content file) (after.content file)
  owned : ∀ other, other ≠ file → disk.isHeld other = true →
    after.content other = disk.content other
  names : ∀ another, another ∉ filesOf place →
    after.fileAt? another = disk.fileAt? another
  elsewhere : ∀ another other, another ∉ filesOf place →
    disk.fileAt? another = some other → after.content other = disk.content other

theorem Visited.untouched {place another : Location} (visited : Visited place disk after file)
    (elsewhere : another ∉ filesOf place) :
    after.fileAt? another = disk.fileAt? another ∧ after.file? another = disk.file? another := by
  have name := visited.names another elsewhere
  apply And.intro name
  rw [Disk.file?, name, Disk.file?]
  cases named : disk.fileAt? another with
  | none => rfl
  | some other => exact congrArg some (visited.elsewhere another other elsewhere named)

theorem Handled.visited (formed : disk.WellFormed)
    (handled : Handled location (disk.fileFor location).1 (disk.fileFor location).2 after)
    (apart : location ∉ companions location)
    (carries : Carries ((disk.fileFor location).2.content (disk.fileFor location).1)
      (after.content (disk.fileFor location).1)) :
    Visited location disk after (disk.fileFor location).1 where
  formed := handled.formed
  extended := by
    have inside : location ∈ [location] := List.mem_cons_self
    exact (Disk.keeps_file_for formed inside).extended.trans handled.extended
  held := handled.held.trans (disk.held_file_for location)
  longer := Nat.le_trans (disk.length_file_for location) handled.longer
  named := (handled.names location apart).trans (disk.file_at_file_for location)
  same other named := by rw [Disk.file_for_of_named named]
  old another other inRange named := Disk.file_at_of_file_for inRange
    (handled.old another other (Nat.lt_of_lt_of_le inRange (disk.length_file_for location)) named)
  carries := by rwa [disk.content_file_for] at carries
  owned other different held := by
    rw [Disk.isHeld, ← disk.held_file_for location, ← Disk.isHeld] at held
    rw [handled.owned other different held, disk.content_file_for]
  names another outside := by
    rw [filesOf, List.mem_cons, not_or, ← List.mem_singleton] at outside
    rw [handled.names another outside.2]
    exact (Disk.keeps_file_for formed List.mem_cons_self).names another outside.1
  elsewhere another other outside named := by
    have stillNamed := Disk.file_at_file_for_of_named location named
    rw [handled.elsewhere another other outside stillNamed, disk.content_file_for]

/-- What opening a ledger at a place comes to: it stands on the file there, which has the table of
the rows and was no store. -/
structure Opened (place : Location) (disk after : Disk) (ledger : OpenLedger) : Prop extends
    Stands place after ledger where
  table : (after.content ledger.file).hasTable = true
  ledger_only : ∀ store, disk.content ledger.file ≠ .store store

theorem open_file_cases (formed : disk.WellFormed) (path target : String)
    (options : LedgerOptions) (config : LedgerConfig) :
    (∃ error, openFile disk path target options config = (.failed error, disk)) ∨
      ∃ file, Visited (ledgerPlace disk target) disk
          (openFile disk path target options config).2 file ∧
        ∀ ledger, (openFile disk path target options config).1 = .done ledger →
          ledger.file = file ∧ Opened (ledgerPlace disk target) disk
            (openFile disk path target options config).2 ledger := by
  rcases find_file_cases disk path target options with ⟨fault, missing⟩ | ⟨free, found⟩
  · left
    exact ⟨_, by rw [openFile, missing]⟩
  · right
    generalize ledgerPlace disk target = location at free found
    have nonempty : location ≠ [] := by
      rintro rfl
      cases free
    have apart : location ∉ companions location := fun member => companion_ne nonempty member rfl
    have begun : Session.Since (disk.fileFor location).2 location (disk.fileFor location).1
        ((disk.fileFor location).2.content (disk.fileFor location).1)
        ⟨(disk.fileFor location).2, options, location,
          ⟨(disk.fileFor location).1, !options.readOnly, none, []⟩⟩ := by
      constructor
      · rfl
      · rfl
      · exact disk.file_at_file_for location
      · exact apart
      · exact .refl _ _ (formed.file_for free)
      · exact fun _ isLog => by cases isLog
      · exact List.nil_subset _
      · exact .refl _
    refine ⟨(disk.fileFor location).1, ?_⟩
    -- A session that fails at any step is closed, which takes companions away only.
    have given_up {session : Session} (since : session.Since (disk.fileFor location).2 location
        (disk.fileFor location).1
        ((disk.fileFor location).2.content (disk.fileFor location).1)) :
        Visited location disk session.close (disk.fileFor location).1 := by
      obtain ⟨handled, same⟩ := since.stands.close since.handled.formed
      rw [since.file] at handled
      refine (since.handled.trans handled).visited formed apart ?_
      rw [Session.close, same]
      exact since.carries
    have prepared := begun.prepare rfl
    rw [openFile, found]
    simp only
    cases preparing : Opening.prepare.run ⟨(disk.fileFor location).2, options, location,
        ⟨(disk.fileFor location).1, !options.readOnly, none, []⟩⟩ with
    | error fault session =>
        rw [Opening.after, preparing] at prepared
        exact ⟨given_up prepared, fun _ isDone => by cases isDone⟩
    | ok value session =>
        have noStore := begun.prepare_ok rfl preparing
        rw [Opening.after_of_ok preparing] at prepared
        simp only
        split
        · exact ⟨given_up prepared, fun _ isDone => by cases isDone⟩
        · have ensured := prepared.ensure_table noStore
          cases ensuring : Opening.ensureTable.run session with
          | error fault last =>
              rw [Opening.after, ensuring] at ensured
              exact ⟨given_up ensured, fun _ isDone => by cases isDone⟩
          | ok value last =>
              rw [Opening.after_of_ok ensuring] at ensured
              refine ⟨ensured.handled.visited formed apart ensured.carries, ?_⟩
              intro ledger isDone
              cases isDone
              refine ⟨ensured.file, ensured.stands, ?_, ?_⟩
              · exact prepared.ensure_table_ok noStore ensuring
              · rw [ensured.file]
                rwa [disk.content_file_for] at noStore

/-- Directories are made first, and what may follow is done to the disk with these. -/
theorem Visited.of_prepared {made : Disk} (grows : disk.Grows made)
    (visited : Visited location made after file) : Visited location disk after file where
  formed := visited.formed
  extended := grows.toExtends.trans visited.extended
  held := visited.held.trans grows.held
  longer := by
    rw [← grows.contents]
    exact visited.longer
  named := visited.named
  same other named := visited.same other (by rw [grows.file_at, named])
  old another other inRange named := by
    rw [← grows.file_at]
    apply visited.old another other _ named
    rwa [grows.contents]
  carries := by
    rw [← grows.content]
    exact visited.carries
  owned other different held := by
    rw [← grows.is_held] at held
    rw [visited.owned other different held, grows.content]
  names another outside := by rw [visited.names another outside, grows.file_at]
  elsewhere another other outside named := by
    rw [← grows.file_at] at named
    rw [visited.elsewhere another other outside named, grows.content]

theorem Opened.of_prepared {made : Disk} (grows : disk.Grows made)
    (opened : Opened location made after ledger) : Opened location disk after ledger where
  toStands := opened.toStands
  table := opened.table
  ledger_only := by
    rw [← grows.content]
    exact opened.ledger_only

theorem open_at_cases (formed : disk.WellFormed)
    (placed : LedgerAddress.place path = .ok (.file target options)) (config : LedgerConfig) :
    (∃ error, (openAt disk path config).1 = .failed error ∧
        disk.Grows (openAt disk path config).2 ∧ (openAt disk path config).2.WellFormed) ∨
      ∃ file, Visited (ledgerPlace disk target) disk (openAt disk path config).2 file ∧
        ∀ ledger, (openAt disk path config).1 = .done ledger →
          ledger.file = file ∧
            Opened (ledgerPlace disk target) disk (openAt disk path config).2 ledger := by
  have grows := disk.prepare_grows (Path.namedParent? path)
  have madeFormed := Disk.prepare_well_formed formed (Path.namedParent? path)
  rw [openAt]
  split
  · rename_i failed fault made prepared
    rw [prepared] at grows madeFormed
    exact Or.inl ⟨_, rfl, grows, madeFormed⟩
  · rename_i made prepared
    rw [prepared] at grows madeFormed
    rw [placed]
    cases path.toList.idxOf? '\x00' with
    | some position => exact Or.inl ⟨_, rfl, grows, madeFormed⟩
    | none =>
        simp only
        rw [← ledger_place_extends grows.toExtends]
        rcases open_file_cases madeFormed path target options config with
          ⟨error, missing⟩ | ⟨file, visited, opened⟩
        · rw [missing]
          exact Or.inl ⟨_, rfl, grows, madeFormed⟩
        · refine Or.inr ⟨file, visited.of_prepared grows, ?_⟩
          intro ledger isDone
          exact ⟨(opened ledger isDone).1, (opened ledger isDone).2.of_prepared grows⟩

/-- A ledger in no file lies in a new one that nothing leads to. -/
theorem open_at_fleeting {readOnly : Bool} (formed : disk.WellFormed)
    (placed : LedgerAddress.place path = .ok (.fleeting readOnly))
    (opened : openAt disk path config = (.done ledger, after)) :
    ∃ made, disk.Grows made ∧ made.WellFormed ∧
      ledger = ⟨made.contents.length, true, none, []⟩ ∧
      after = (made.createUnnamed (.ledger ⟨false, some []⟩)).2 := by
  have grows := disk.prepare_grows (Path.namedParent? path)
  have madeFormed := Disk.prepare_well_formed formed (Path.namedParent? path)
  rw [openAt] at opened
  split at opened
  · cases opened
  · rename_i made prepared
    rw [prepared] at grows madeFormed
    rw [placed] at opened
    cases position : path.toList.idxOf? '\x00' with
    | some position =>
        rw [position] at opened
        cases opened
    | none =>
        rw [position] at opened
        simp only [openFleeting] at opened
        split at opened
        · cases opened
        · split at opened
          · cases opened
          · cases opened
            exact ⟨made, grows, madeFormed, rfl, rfl⟩

theorem open_at_fleeting_formed {readOnly : Bool} (formed : disk.WellFormed)
    (placed : LedgerAddress.place path = .ok (.fleeting readOnly)) (config : LedgerConfig) :
    (openAt disk path config).2.WellFormed := by
  have madeFormed := Disk.prepare_well_formed formed (Path.namedParent? path)
  rw [openAt]
  split
  · rename_i failed fault made prepared
    rwa [prepared] at madeFormed
  · rename_i made prepared
    rw [prepared] at madeFormed
    rw [placed]
    cases path.toList.idxOf? '\x00' with
    | some position => exact madeFormed
    | none =>
        simp only [openFleeting]
        split
        · exact madeFormed
        · split
          · exact madeFormed
          · exact madeFormed.create_unnamed

theorem place_of_open_at (opened : openAt disk path config = (.done ledger, after)) :
    ∃ place, LedgerAddress.place path = .ok place := by
  rw [openAt] at opened
  split at opened
  · cases opened
  · cases placed : LedgerAddress.place path with
    | ok place => exact ⟨place, rfl⟩
    | error fault =>
        rw [placed] at opened
        cases position : path.toList.idxOf? '\x00' <;> rw [position] at opened <;> cases opened

/-- A ledger that was opened lies in no file, or stands on the one that its address leads to. -/
theorem open_at_done (formed : disk.WellFormed)
    (opened : openAt disk path config = (.done ledger, after)) :
    (∃ readOnly made, LedgerAddress.place path = .ok (.fleeting readOnly) ∧ disk.Grows made ∧
        made.WellFormed ∧ ledger = ⟨made.contents.length, true, none, []⟩ ∧
        after = (made.createUnnamed (.ledger ⟨false, some []⟩)).2) ∨
      ∃ target options, LedgerAddress.place path = .ok (.file target options) ∧
        Visited (ledgerPlace disk target) disk after ledger.file ∧
        Opened (ledgerPlace disk target) disk after ledger := by
  obtain ⟨place, placed⟩ := place_of_open_at opened
  cases place with
  | fleeting readOnly =>
      obtain ⟨made, grows, madeFormed, isLedger, isAfter⟩ := open_at_fleeting formed placed opened
      exact Or.inl ⟨readOnly, made, placed, grows, madeFormed, isLedger, isAfter⟩
  | file target options =>
      right
      rcases open_at_cases formed placed config with ⟨error, failed, -⟩ | ⟨file, visited, ledgers⟩
      · rw [opened] at failed
        cases failed
      · rw [opened] at visited ledgers
        obtain ⟨isFile, isOpened⟩ := ledgers ledger rfl
        rw [← isFile] at visited
        exact ⟨target, options, placed, visited, isOpened⟩

/-- The ledger at a path and the disk once it is open, if it can be opened. -/
def opened? (disk : Disk) (path : String) (config : LedgerConfig) : Option (OpenLedger × Disk) :=
  match openAt disk path config with
  | (.done ledger, after) => some (ledger, after)
  | _ => none

theorem opened_eq_some (found : opened? disk path config = some (ledger, after)) :
    openAt disk path config = (.done ledger, after) := by
  unfold opened? at found
  split at found
  · rename_i other later isOpen
    cases found
    exact isOpen
  · cases found

end CensusNode.Ledger
