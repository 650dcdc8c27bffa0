import CensusNode.Proofs.Ledger.Running
import CensusNode.Proofs.Registry.Requests

/-!
Sound registries. What a registry holds in memory is what its disk shows: the control store has a
counter that can be read, each loaded census is the one that its store would be loaded as, the
registry owns just the stores it has open, and the ledger beside it stays in use. A census is
resolved as if its store were opened anew, whether it is loaded already or not.
-/

namespace CensusNode

structure Site.Loaded (site : Site) (disk : Disk) (census : LoadedCensus) : Prop where
  prepared : disk.Prepared (some (site.directoryPath census.id))
  located : disk.locate (site.storePath census.id) = .ok (site.store census.id)
  named : disk.fileAt? (site.store census.id) = some census.file
  holds : ∃ store, disk.file? (site.store census.id) = some (.store store) ∧
    IdentitySet.load store.census = .ok ⟨store.census, census.sealed⟩

theorem Site.Loaded.keeps {site : Site} {disk later : Disk} {census : LoadedCensus}
    (loaded : site.Loaded disk census) (extended : disk.Extends later)
    (names : later.fileAt? (site.store census.id) = disk.fileAt? (site.store census.id))
    (files : later.file? (site.store census.id) = disk.file? (site.store census.id)) :
    site.Loaded later census where
  prepared := loaded.prepared.extends extended
  located := Disk.locate_extends extended loaded.located
  named := names.trans loaded.named
  holds := by
    rw [files]
    exact loaded.holds

namespace Registry

/-- The invariant of a registry beside a ledger in use. -/
structure Sound (site : Site) (ledger : OpenLedger) (rows : List VoteRow) (registry : Registry) :
    Prop where
  on_disk : site.On registry.disk
  root : registry.censusRoot = site.config.censusRootPath
  control : registry.disk.fileAt? site.control = some registry.control
  counter : ∃ store next, registry.disk.file? site.control = some (.store store) ∧
    Counter.read (Counter.tableOf store) = .ok next
  owners : ∀ file, registry.disk.isHeld file = true ↔
    file = registry.control ∨ ∃ census ∈ registry.loaded, census.file = file
  distinct : (registry.loaded.map LoadedCensus.id).Nodup
  loaded : ∀ census ∈ registry.loaded, site.Loaded registry.disk census
  running : Ledger.Running site.ledger registry.disk ledger rows

variable {site : Site} {ledger : OpenLedger} {rows : List VoteRow} {registry : Registry}
  {disk later : Disk} {id : CensusId}

def storeOutcome (site : Site) (disk : Disk) (id : CensusId) : Except StoreError Store :=
  outcome disk (some (site.directoryPath id)) (site.storePath id)

def made (site : Site) (disk : Disk) (id : CensusId) : Disk :=
  (disk.prepare (some (site.directoryPath id))).2

/-- The identity set of a census, as opening its store anew gives it. -/
def consult (site : Site) (disk : Disk) (id : CensusId) : Except RegistryError IdentitySet :=
  match storeOutcome site disk id with
  | .error error => .error (.load id error)
  | .ok store =>
      match IdentitySet.load store.census with
      | .error error => .error (.identitySet id error)
      | .ok set => .ok set

inductive Visited (site : Site) (id : CensusId) (disk later : Disk) : Prop where
  | refused (error : StoreError) (failed : storeOutcome site disk id = .error error)
      (within : (made site disk id).Within [] later)
  | opened (store : Store) (file : FileId) (shown : storeOutcome site disk id = .ok store)
      (opened : Opened (site.store id) (made site disk id) later file store)

theorem made_grows (site : Site) (disk : Disk) (id : CensusId) :
    disk.Grows (made site disk id) := disk.prepare_grows _

theorem made_on (onDisk : site.On disk) (id : CensusId) : site.On (made site disk id) :=
  onDisk.extends (made_grows site disk id).toExtends (Disk.prepare_well_formed onDisk.formed _)

theorem Visited.file_of_ne (visited : Visited site id disk later) {place : Location}
    (different : place ≠ site.store id) :
    later.fileAt? place = disk.fileAt? place ∧ later.file? place = disk.file? place := by
  have grows := made_grows site disk id
  rw [← grows.file_at, ← grows.file]
  cases visited with
  | refused error failed within =>
      exact ⟨within.names place List.not_mem_nil, within.files place List.not_mem_nil⟩
  | opened store file shown opened =>
    have outside : place ∉ [site.store id] := by
      rw [List.mem_singleton]
      exact different
    exact ⟨opened.within.names place outside, opened.within.files place outside⟩

theorem Visited.directories (visited : Visited site id disk later) :
    later.directories = (made site disk id).directories ∧
      later.workingDirectory = disk.workingDirectory := by
  have grows := made_grows site disk id
  cases visited with
  | refused error failed within =>
      exact ⟨within.directories, within.working_directory.trans grows.working_directory⟩
  | opened store file shown opened =>
      exact ⟨opened.within.directories,
        opened.within.working_directory.trans grows.working_directory⟩

/-- What is not compared between two disks: the log of the ledger and its index. -/
def hidden (site : Site) : List Location :=
  [Ledger.logOf site.ledger, Ledger.indexOf site.ledger]

theorem store_not_hidden (site : Site) (id : CensusId) : site.store id ∉ hidden site :=
  fun member => site.store_not_companion id site.ledger (List.mem_cons_of_mem _ member)

section

variable {left right leftLater rightLater : Disk}

theorem store_outcome_alike (usable : site.Usable) (onRight : site.On right)
    (alike : Disk.Alike (hidden site) left right) (id : CensusId) :
    storeOutcome site left id = storeOutcome site right id := by
  apply outcome_alike alike
  intro location located
  rw [usable.locate_store (made_on onRight id) located]
  exact store_not_hidden site id

theorem consult_alike (usable : site.Usable) (onRight : site.On right)
    (alike : Disk.Alike (hidden site) left right) (id : CensusId) :
    consult site left id = consult site right id := by
  have same := store_outcome_alike usable onRight alike id
  unfold consult
  rw [same]

theorem Visited.alike (usable : site.Usable) (onRight : site.On right)
    (alike : Disk.Alike (hidden site) left right) (leftVisited : Visited site id left leftLater)
    (rightVisited : Visited site id right rightLater) :
    Disk.Alike (hidden site) leftLater rightLater := by
  have same := store_outcome_alike usable onRight alike id
  have madeAlike : Disk.Alike (hidden site) (made site left id) (made site right id) :=
    (alike.prepare (some (site.directoryPath id))).2
  cases leftVisited with
  | refused error failed within =>
      cases rightVisited with
      | refused _ _ otherWithin =>
          have before := (within.alike_of_nil (hidden site)).symm
          exact (before.trans madeAlike).trans (otherWithin.alike_of_nil (hidden site))
      | opened store _ shown _ =>
          rw [← same, failed] at shown
          cases shown
  | opened store file shown opened =>
      cases rightVisited with
      | refused _ failed _ =>
          rw [← same, shown] at failed
          cases failed
      | opened other otherFile otherShown otherOpened =>
          rw [← same, shown] at otherShown
          cases otherShown
          exact opened.alike otherOpened madeAlike

end

theorem Sound.held_in_range (sound : Sound site ledger rows registry) {file : FileId}
    (held : registry.disk.isHeld file = true) : file < registry.disk.contents.length := by
  rw [sound.owners] at held
  rcases held with isControl | ⟨census, member, isFile⟩
  · rw [isControl]
    exact sound.on_disk.formed.in_range _ _ sound.control
  · rw [← isFile]
    exact sound.on_disk.formed.in_range _ _ (sound.loaded census member).named

/-- The store of a census that is not loaded is in nobody's hands. -/
theorem Sound.unheld (sound : Sound site ledger rows registry)
    (new : ∀ census ∈ registry.loaded, census.id ≠ id) {file : FileId}
    (named : registry.disk.fileAt? (site.store id) = some file) :
    registry.disk.isHeld file = false := by
  have formed := sound.on_disk.formed
  rw [← Bool.not_eq_true, sound.owners]
  rintro (isControl | ⟨census, member, isFile⟩)
  · rw [isControl] at named
    exact site.store_ne_control id (formed.single _ _ _ named sound.control)
  · have other := (sound.loaded census member).named
    rw [isFile] at other
    have same := formed.single _ _ _ other named
    exact new census member (Site.store_injective same)

theorem Sound.unheld_file (usable : site.Usable) (sound : Sound site ledger rows registry)
    (new : ∀ census ∈ registry.loaded, census.id ≠ id) {location : Location}
    (located : (made site registry.disk id).locate (site.storePath id) = .ok location) :
    ((made site registry.disk id).fileFor location).2.isHeld
      ((made site registry.disk id).fileFor location).1 = false := by
  have grows := made_grows site registry.disk id
  have onMade := made_on sound.on_disk id
  generalize made site registry.disk id = after at *
  rw [usable.locate_store onMade located]
  cases named : after.fileAt? (site.store id) with
  | some file =>
      rw [Disk.file_for_of_named named, grows.is_held]
      rw [grows.file_at] at named
      exact sound.unheld new named
  | none =>
      rw [Disk.fileFor, named]
      change after.isHeld after.contents.length = false
      rw [grows.is_held, grows.contents, ← Bool.not_eq_true]
      intro held
      exact Nat.lt_irrefl _ (sound.held_in_range held)

theorem Sound.load_spec (usable : site.Usable) (sound : Sound site ledger rows registry)
    (new : ∀ census ∈ registry.loaded, census.id ≠ id) :
    (∃ error, storeOutcome site registry.disk id = .error error ∧
      registry.load id =
        (.error (.load id error), { registry with disk := made site registry.disk id })) ∨
    ∃ store file later, storeOutcome site registry.disk id = .ok store ∧
      Opened (site.store id) (made site registry.disk id) later file store ∧
      later.held = registry.disk.held ∧
      registry.load id =
        match IdentitySet.load store.census with
        | .error error => (.error (.identitySet id error),
            { registry with
              disk := (later.hold file).release file, storeOpens := registry.storeOpens + 1 })
        | .ok set => (.ok ⟨id, file, set.sealed⟩,
            { registry with disk := later.hold file, storeOpens := registry.storeOpens + 1 }) := by
  have directory : censusDirectory registry.censusRoot id = site.directoryPath id := by
    rw [sound.root, Site.directoryPath]
  have path : censusPath registry.censusRoot id = site.storePath id := by
    rw [sound.root, Site.storePath]
  unfold storeOutcome load
  rcases open_store_in_spec sound.on_disk.formed
      (fun location located => sound.unheld_file usable new located) with
    ⟨error, failed, refused⟩ | ⟨store, location, file, later, shown, isOpen, located, opened, held⟩
  · left
    refine ⟨error, failed, ?_⟩
    simp only [directory, path, refused]
    rfl
  · right
    rw [usable.locate_store (made_on sound.on_disk id) located] at opened
    have contents : (later.hold file).storeAt file = store := opened.store_at
    refine ⟨store, file, later, shown, opened, held, ?_⟩
    cases loaded : IdentitySet.load store.census <;>
      simp only [directory, path, isOpen, contents, loaded]

theorem store_outcome_eq_ok (usable : site.Usable) (onDisk : site.On disk) {store : Store}
    (shown : storeOutcome site disk id = .ok store) :
    (made site disk id).Prepared (some (site.directoryPath id)) ∧
      (made site disk id).locate (site.storePath id) = .ok (site.store id) ∧
      shownStore (disk.file? (site.store id)) = .ok store := by
  obtain ⟨prepared, location, located, isStore⟩ := outcome_eq_ok shown
  have grows := made_grows site disk id
  have isPlace := usable.locate_store (made_on onDisk id) located
  rw [isPlace] at located isStore
  rw [← grows.file]
  exact ⟨Disk.prepared_of_prepare prepared, located, isStore⟩

namespace Visited

theorem extended (visited : Visited site id disk later) : disk.Extends later where
  working_directory := visited.directories.2
  directories location isDirectory := by
    have before := (made_grows site disk id).directories location isDirectory
    rw [Disk.isDirectory] at before ⊢
    rwa [visited.directories.1]

theorem is_directory (usable : site.Usable) (onDisk : site.On disk)
    (visited : Visited site id disk later) {place : Location}
    (isDirectory : later.isDirectory place = true) :
    disk.isDirectory place = true ∨ place = site.censuses ∨ place = site.census id := by
  apply usable.prepare_directories onDisk id
  rw [Disk.isDirectory] at isDirectory ⊢
  rwa [visited.directories.1] at isDirectory

/-- A visit never touches the ledger, even where its path leads to a store. -/
theorem ledger_file (usable : site.Usable) (onDisk : site.On disk)
    (visited : Visited site id disk later)
    (holds : disk.file? site.ledger = some (Ledger.image rows)) {place : Location}
    (member : place ∈ Ledger.filesOf site.ledger) :
    later.fileAt? place = disk.fileAt? place ∧ later.file? place = disk.file? place := by
  by_cases different : place = site.store id
  · rcases List.mem_cons.mp member with isLedger | isCompanion
    · have grows := made_grows site disk id
      rw [← grows.file_at, ← grows.file]
      cases visited with
      | refused error failed within =>
          exact ⟨within.names place List.not_mem_nil, within.files place List.not_mem_nil⟩
      | opened store file shown opened =>
          obtain ⟨-, -, isStore⟩ := store_outcome_eq_ok usable onDisk shown
          rw [← different, isLedger, holds] at isStore
          cases isStore
    · rw [different] at isCompanion
      exact absurd isCompanion (site.store_not_companion id site.ledger)
  · exact visited.file_of_ne different

theorem running (usable : site.Usable) (onDisk : site.On disk)
    (visited : Visited site id disk later) (formed : later.WellFormed)
    (before : Ledger.Running site.ledger disk ledger rows) :
    Ledger.Running site.ledger later ledger rows := by
  apply before.spared formed visited.extended
  · intro place member
    exact (visited.ledger_file usable onDisk before.holds member).1
  · intro place member
    exact (visited.ledger_file usable onDisk before.holds member).2
  · rw [← Bool.not_eq_true]
    intro isDirectory
    have companion : Ledger.journalOf site.ledger ∈ Ledger.companions site.ledger :=
      List.mem_cons_self
    rcases visited.is_directory usable onDisk isDirectory with before' | isCensuses | isCensus
    · rw [before.journal.free] at before'
      cases before'
    · exact usable.censuses isCensuses.symm
    · rw [isCensus] at companion
      exact site.census_not_companion id site.ledger companion

end Visited

theorem Sound.visit (usable : site.Usable) (sound : Sound site ledger rows registry)
    (new : ∀ census ∈ registry.loaded, census.id ≠ id) (after : Registry)
    (added : Option LoadedCensus) (visited : Visited site id registry.disk after.disk)
    (formed : after.disk.WellFormed) (control : after.control = registry.control)
    (root : after.censusRoot = registry.censusRoot)
    (loaded : after.loaded = registry.loaded ++ added.toList)
    (isNew : ∀ census ∈ added, census.id = id ∧ site.Loaded after.disk census)
    (owners : ∀ file, after.disk.isHeld file = true ↔
      registry.disk.isHeld file = true ∨ ∃ census ∈ added, census.file = file) :
    Sound site ledger rows after where
  on_disk := sound.on_disk.extends visited.extended formed
  root := root.trans sound.root
  control := by
    rw [control, (visited.file_of_ne (site.store_ne_control id).symm).1]
    exact sound.control
  counter := by
    rw [(visited.file_of_ne (site.store_ne_control id).symm).2]
    exact sound.counter
  owners file := by
    simp only [owners, sound.owners, control, loaded, List.mem_append, Option.mem_toList,
      Option.mem_def, or_and_right, exists_or, or_assoc]
  distinct := by
    rw [loaded, List.map_append, List.nodup_append]
    refine ⟨sound.distinct, ?_, ?_⟩
    · cases added <;> simp
    · intro left leftMember right rightMember same
      rw [List.mem_map] at leftMember rightMember
      obtain ⟨census, member, isLeft⟩ := leftMember
      obtain ⟨other, otherMember, isRight⟩ := rightMember
      rw [Option.mem_toList] at otherMember
      apply new census member
      rw [isLeft, same, ← isRight, (isNew other otherMember).1]
  loaded census member := by
    rw [loaded, List.mem_append, Option.mem_toList] at member
    rcases member with old | isAdded
    · have different : site.store census.id ≠ site.store id := fun same =>
        new census old (Site.store_injective same)
      exact (sound.loaded census old).keeps visited.extended (visited.file_of_ne different).1
        (visited.file_of_ne different).2
    · exact (isNew census isAdded).2
  running := visited.running usable sound.on_disk formed sound.running

structure Resolved (site : Site) (ledger : OpenLedger) (rows : List VoteRow) (registry : Registry)
    (id : CensusId) (found : Except RegistryError LoadedCensus) (after : Registry) : Prop where
  sound : Sound site ledger rows after
  visited : Visited site id registry.disk after.disk
  answer : consult site registry.disk id = found.map after.setOf
  loaded : ∀ census, found = .ok census → census ∈ after.loaded ∧ census.id = id

/-- A loaded census is what opening its store would come to. -/
theorem Sound.consult_loaded (sound : Sound site ledger rows registry) {census : LoadedCensus}
    (member : census ∈ registry.loaded) :
    consult site registry.disk census.id = .ok (registry.setOf census) ∧
      Visited site census.id registry.disk registry.disk := by
  obtain ⟨store, holds, persisted⟩ := (sound.loaded census member).holds
  have named := (sound.loaded census member).named
  have formed := sound.on_disk.formed
  have prepared := (sound.loaded census member).prepared.prepare
  have shown : storeOutcome site registry.disk census.id = .ok store := by
    rw [storeOutcome, outcome, prepared]
    simp only [(sound.loaded census member).located, formed.not_directory named,
      Bool.false_eq_true, if_false, holds, shownStore]
  have contents : registry.setOf census = ⟨store.census, census.sealed⟩ := by
    have content := holds
    rw [Disk.file_of_named named] at content
    rw [setOf, tablesOf, Disk.storeAt, Option.some.inj content]
    rfl
  constructor
  · unfold consult
    rw [shown, contents]
    simp only [persisted]
  · have same : made site registry.disk census.id = registry.disk := by rw [made, prepared]
    refine .opened store census.file shown ?_
    rw [same]
    refine ⟨formed, Disk.Within.refl _ _, named, holds, ?_⟩
    intro other isOther
    rw [named] at isOther
    exact (Option.some.inj isOther).symm

theorem Sound.unheld_opened (sound : Sound site ledger rows registry)
    (new : ∀ census ∈ registry.loaded, census.id ≠ id)
    (visited : Visited site id registry.disk later) (formed : later.WellFormed) {file : FileId}
    (named : later.fileAt? (site.store id) = some file) : registry.disk.isHeld file = false := by
  rw [← Bool.not_eq_true, sound.owners]
  rintro (isControl | ⟨census, member, isFile⟩)
  · have control := sound.control
    rw [← (visited.file_of_ne (site.store_ne_control id).symm).1, ← isControl] at control
    exact site.store_ne_control id (formed.single _ _ _ named control)
  · have different : site.store census.id ≠ site.store id := fun same =>
      new census member (Site.store_injective same)
    have other := (sound.loaded census member).named
    rw [← (visited.file_of_ne different).1, isFile] at other
    exact different (formed.single _ _ _ other named)

theorem Opened.loaded (usable : site.Usable) (onDisk : site.On disk) {store : Store} {file : FileId}
    {set : IdentitySet} (opened : Opened (site.store id) (made site disk id) later file store)
    (shown : storeOutcome site disk id = .ok store)
    (loads : IdentitySet.load store.census = .ok set) :
    site.Loaded later ⟨id, file, set.sealed⟩ := by
  obtain ⟨prepared, located, -⟩ := store_outcome_eq_ok usable onDisk shown
  have extended := opened.within.extended
  constructor
  · exact prepared.extends extended
  · exact Disk.locate_extends extended located
  · exact opened.named
  · refine ⟨store, opened.holds, ?_⟩
    rw [loads]
    cases set with
    | mk tables sealed =>
        have same := IdentitySet.load_tables loads
        rw [← same]

section

variable {error : StoreError} {fault : IdentityError} {store : Store} {file : FileId}
  {set : IdentitySet} {census : LoadedCensus}

theorem Sound.resolved_loaded (sound : Sound site ledger rows registry)
    (found : registry.find? id = some census) :
    Resolved site ledger rows registry id (.ok census) registry := by
  obtain ⟨member, isId⟩ := find_eq_some found
  obtain ⟨answer, visited⟩ := sound.consult_loaded member
  rw [isId] at answer visited
  refine ⟨sound, visited, answer, ?_⟩
  intro other same
  rw [← Except.ok.inj same]
  exact ⟨member, isId⟩

/-- A store that cannot be opened leaves the directories made for it. -/
theorem Sound.resolved_refused (usable : site.Usable) (sound : Sound site ledger rows registry)
    (new : ∀ census ∈ registry.loaded, census.id ≠ id)
    (failed : storeOutcome site registry.disk id = .error error) :
    Resolved site ledger rows registry id (.error (.load id error))
      { registry with disk := made site registry.disk id } := by
  have visited : Visited site id registry.disk (made site registry.disk id) :=
    .refused error failed (Disk.Within.refl _ _)
  constructor
  · apply sound.visit usable new _ none visited (made_on sound.on_disk id).formed
    · rfl
    · rfl
    · exact (List.append_nil _).symm
    · intro census isCensus
      cases isCensus
    · intro other
      simp [(made_grows site registry.disk id).is_held]
  · exact visited
  · unfold consult
    rw [failed]
    rfl
  · intro census same
    cases same

/-- Who owned a file before a store was opened still does, and the store is owned besides. -/
theorem is_held_opened (held : later.held = disk.held) (other : FileId) :
    (later.hold file).isHeld other = true ↔ disk.isHeld other = true ∨ file = other := by
  have before : later.isHeld other = disk.isHeld other := by rw [Disk.isHeld, held, Disk.isHeld]
  have turned : other = file ↔ file = other := eq_comm
  rw [Disk.is_held_hold_iff, before, turned, or_comm]

/-- A store whose records cannot be read is given back. -/
theorem Sound.resolved_unreadable (usable : site.Usable) (sound : Sound site ledger rows registry)
    (new : ∀ census ∈ registry.loaded, census.id ≠ id)
    (shown : storeOutcome site registry.disk id = .ok store)
    (opened : Opened (site.store id) (made site registry.disk id) later file store)
    (held : later.held = registry.disk.held)
    (loads : IdentitySet.load store.census = .error fault) (opens : Nat) :
    Resolved site ledger rows registry id (.error (.identitySet id fault))
      { registry with disk := (later.hold file).release file, storeOpens := opens } := by
  have released : Opened (site.store id) (made site registry.disk id)
      ((later.hold file).release file) file store := opened.owned _
  have visited : Visited site id registry.disk ((later.hold file).release file) :=
    .opened store file shown released
  have free := sound.unheld_opened new visited released.formed released.named
  constructor
  · apply sound.visit usable new _ none visited released.formed
    · rfl
    · rfl
    · exact (List.append_nil _).symm
    · intro census isCensus
      cases isCensus
    · intro other
      rw [Disk.is_held_release_iff, is_held_opened held]
      constructor
      · rintro ⟨different, isOwned | isFile⟩
        · exact Or.inl isOwned
        · exact absurd isFile.symm different
      · rintro (isOwned | ⟨census, isCensus, -⟩)
        · refine ⟨?_, Or.inl isOwned⟩
          intro isFile
          rw [isFile, free] at isOwned
          cases isOwned
        · cases isCensus
  · exact visited
  · unfold consult
    rw [shown]
    simp only [loads]
    rfl
  · intro census same
    cases same

theorem Sound.resolved_opened (usable : site.Usable) (sound : Sound site ledger rows registry)
    (new : ∀ census ∈ registry.loaded, census.id ≠ id)
    (shown : storeOutcome site registry.disk id = .ok store)
    (opened : Opened (site.store id) (made site registry.disk id) later file store)
    (held : later.held = registry.disk.held)
    (loads : IdentitySet.load store.census = .ok set) (opens : Nat) :
    Resolved site ledger rows registry id (.ok ⟨id, file, set.sealed⟩)
      { registry with
        disk := later.hold file, storeOpens := opens
        loaded := registry.loaded ++ [⟨id, file, set.sealed⟩] } := by
  have owned : Opened (site.store id) (made site registry.disk id) (later.hold file) file store :=
    opened.owned _
  have visited : Visited site id registry.disk (later.hold file) := .opened store file shown owned
  constructor
  · apply sound.visit usable new _ (some ⟨id, file, set.sealed⟩) visited owned.formed
    · rfl
    · rfl
    · rfl
    · intro census isCensus
      cases isCensus
      exact ⟨rfl, owned.loaded usable sound.on_disk shown loads⟩
    · intro other
      rw [is_held_opened held]
      simp only [Option.mem_def, Option.some.injEq, exists_eq_left']
  · exact visited
  · have contents : (later.hold file).storeAt file = store := opened.store_at
    unfold consult
    rw [shown]
    simp only [loads, Except.map, setOf, tablesOf, contents]
    rw [← IdentitySet.load_tables loads]
  · intro census same
    rw [← Except.ok.inj same]
    exact ⟨List.mem_append_right _ List.mem_cons_self, rfl⟩

end

/-- Every census is resolved as if its store were opened anew. -/
theorem Sound.resolve (usable : site.Usable) (sound : Sound site ledger rows registry)
    (id : CensusId) :
    Resolved site ledger rows registry id (registry.resolve id).1 (registry.resolve id).2 := by
  unfold Registry.resolve
  cases found : registry.find? id with
  | some census => exact sound.resolved_loaded found
  | none =>
      have new := find_eq_none found
      rcases sound.load_spec usable new with
        ⟨error, failed, loading⟩ | ⟨store, file, later, shown, opened, held, loading⟩
      · rw [loading]
        exact sound.resolved_refused usable new failed
      · cases loads : IdentitySet.load store.census with
        | error fault =>
            rw [loads] at loading
            rw [loading]
            exact sound.resolved_unreadable usable new shown opened held loads _
        | ok set =>
            rw [loads] at loading
            rw [loading]
            exact sound.resolved_opened usable new shown opened held loads _

end Registry

end CensusNode
