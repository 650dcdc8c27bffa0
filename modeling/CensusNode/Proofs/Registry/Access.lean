import CensusNode.Proofs.Registry.Growth

/-!
What keeps a census from being loaded. When the directory that is to hold all censuses lies in one
that is there, this can be told from a few places on the disk: those of the directories and of the
store, and the file in the store's place. Making the directories of one census or of another does
not change what is told.
-/

namespace CensusNode

namespace Disk

variable {disk : Disk} {location : Location}

theorem create_along_name {name : String} (isName : Path.IsName name) (created : Bool)
    (rest : List String) :
    disk.createAlong location created (name :: rest) =
      if nameLimit < Utf8.pathSize name then (.error .nameTooLong, disk)
      else if disk.isDirectory (name :: location) then
        disk.createAlong (name :: location) created rest
      else if (disk.fileAt? (name :: location)).isSome then
        if created || rest.all (· = "") then (.error .exists, disk)
        else (.error .notDirectory, disk)
      else (disk.addDirectory (name :: location)).createAlong (name :: location) true rest := by
  rw [createAlong, isName.onward, if_neg (by decide), if_neg isName.forward]
  rfl

theorem prepare_fst (disk : Disk) (directory : String) :
    (disk.prepare (some directory)).1 =
      match (disk.createDirectories directory).1 with
      | .error fault => some (directory, fault)
      | .ok () => none := by
  rw [prepare]
  cases disk.createDirectories directory with
  | mk answer made => cases answer <;> rfl

theorem create_along_names (formed : disk.WellFormed) {first second : String}
    (isFirst : Path.IsName first) (isSecond : Path.IsName second) (location : Location) :
    (disk.createAlong location false [first, second]).1 =
      if nameLimit < Utf8.pathSize first then .error .nameTooLong
      else if (disk.fileAt? (first :: location)).isSome then .error .notDirectory
      else if nameLimit < Utf8.pathSize second then .error .nameTooLong
      else if (disk.fileAt? (second :: first :: location)).isSome then .error .exists
      else .ok () := by
  have free {place : Location} (isDirectory : disk.isDirectory place = true) :
      (disk.fileAt? place).isSome = false := by
    rw [formed.no_file place isDirectory]
    rfl
  -- The second name is looked at on the disk as it is, or with the first directory made.
  have deeper {other : Disk} (names : other.fileAt? = disk.fileAt?) (created : Bool)
      (spared : other.isDirectory (second :: first :: location) = true →
        (disk.fileAt? (second :: first :: location)).isSome = false) :
      (other.createAlong (first :: location) created [second]).1 =
        if nameLimit < Utf8.pathSize second then .error .nameTooLong
        else if (disk.fileAt? (second :: first :: location)).isSome then .error .exists
        else .ok () := by
    rw [create_along_name isSecond, names]
    split
    · rfl
    · cases isDirectory : other.isDirectory (second :: first :: location) with
      | true =>
          rw [if_pos rfl, if_neg (by rw [spared isDirectory]; decide)]
          rfl
      | false =>
          rw [if_neg (by decide)]
          split
          · rw [if_pos (by simp)]
          · rfl
  rw [create_along_name isFirst]
  split
  · rfl
  · cases isDirectory : disk.isDirectory (first :: location) with
    | true =>
        have noFile := free isDirectory
        simp only [if_true, deeper rfl false free, noFile, Bool.false_eq_true, if_false]
    | false =>
        rw [if_neg (by decide)]
        split
        · rw [if_neg (by simp [isSecond.ne_empty])]
        · apply deeper (rfl : (disk.addDirectory (first :: location)).fileAt? = disk.fileAt?) true
          intro added
          rw [add_directory_is_directory_iff] at added
          rcases added with same | before
          · exact absurd (congrArg List.length same) (by simp)
          · exact free before

end Disk

namespace Registry

/-- The directory of all censuses is to lie under its name in a directory that is there. -/
structure Rooted (root name : String) (above : Location) (disk : Disk) : Prop where
  isName : Path.IsName name
  reached : ∃ front, Path.stem root = front ++ [name] ∧
    disk.walk (disk.origin root) front = .ok above

def directoryPlace (disk : Disk) (root : String) (id : CensusId) : Location :=
  Decimal.encode id.value.toNat :: censusesPlace disk root

def checkDirectory (disk : Disk) (root name : String) (id : CensusId) : Except IoFault Unit :=
  match Disk.checkPath (censusDirectory root id) with
  | .error fault => .error fault
  | .ok () =>
      if Disk.nameLimit < Utf8.pathSize name then .error .nameTooLong
      else if (disk.fileAt? (censusesPlace disk root)).isSome then .error .notDirectory
      else if Disk.nameLimit < Utf8.pathSize (Decimal.encode id.value.toNat) then
        .error .nameTooLong
      else if (disk.fileAt? (directoryPlace disk root id)).isSome then .error .exists
      else .ok ()

def checkPlace (disk : Disk) (root name : String) (id : CensusId) : Except StoreError Unit :=
  match checkDirectory disk root name id with
  | .error fault => .error (.createDirectory (censusDirectory root id) fault)
  | .ok () =>
      match Disk.checkPath (censusPath root id) with
      | .error fault => .error (.openFile (censusPath root id) (.io fault))
      | .ok () =>
          if disk.isDirectory (storePlace disk root id) then
            .error (.openFile (censusPath root id) (.io .isDirectory))
          else .ok ()

variable {disk later : Disk} {root name : String} {above : Location} {id : CensusId}

theorem Rooted.censuses_place (rooted : Rooted root name above disk) :
    censusesPlace disk root = name :: above := by
  obtain ⟨front, isStem, walked⟩ := rooted.reached
  rw [censusesPlace, isStem, Disk.follow_append, ← Disk.follow_of_walk walked, Disk.follow_cons,
    rooted.isName.step]
  rfl

theorem Rooted.extends (rooted : Rooted root name above disk) (extended : disk.Extends later) :
    Rooted root name above later where
  isName := rooted.isName
  reached := by
    obtain ⟨front, isStem, walked⟩ := rooted.reached
    refine ⟨front, isStem, ?_⟩
    rw [extended.origin]
    exact Disk.walk_extends extended walked

theorem Rooted.along (rooted : Rooted root name above disk) (id : CensusId) :
    disk.createAlong (disk.origin (censusDirectory root id)) false
        (Path.segments (censusDirectory root id)) =
      disk.createAlong above false [name, Decimal.encode id.value.toNat] := by
  obtain ⟨front, isStem, walked⟩ := rooted.reached
  rw [origin_census_directory, segments_census_directory, isStem, List.append_assoc,
    Disk.create_along_of_walk walked]
  rfl

/-- Only the directory of all censuses and the one of the census itself are made. -/
theorem Rooted.made_directories (rooted : Rooted root name above disk) {place : Location}
    (isDirectory : (disk.prepare (some (censusDirectory root id))).2.isDirectory place = true) :
    disk.isDirectory place = true ∨ place = censusesPlace disk root ∨
      place = directoryPlace disk root id := by
  have along := rooted.along id
  rw [Disk.prepare, Disk.createDirectories] at isDirectory
  cases checked : Disk.checkPath (censusDirectory root id) with
  | error fault =>
      rw [checked] at isDirectory
      exact Or.inl isDirectory
  | ok _ =>
      have made : (disk.createAlong above false
          [name, Decimal.encode id.value.toNat]).2.isDirectory place = true := by
        rw [checked] at isDirectory
        simp only [along] at isDirectory
        split at isDirectory
        · rename_i same
          rw [same]
          exact isDirectory
        · rename_i same
          rw [same]
          exact isDirectory
      rw [directoryPlace, rooted.censuses_place]
      rcases Disk.create_along_directories made with before | new
      · exact Or.inl before
      · simp only [Disk.trail, rooted.isName.step, (Decimal.is_name_encode id.value.toNat).step,
          List.mem_cons, List.not_mem_nil, or_false] at new
        exact Or.inr new

theorem Rooted.prepare_fst (rooted : Rooted root name above disk) (formed : disk.WellFormed)
    (id : CensusId) :
    (disk.prepare (some (censusDirectory root id))).1 =
      match checkDirectory disk root name id with
      | .error fault => some (censusDirectory root id, fault)
      | .ok () => none := by
  have along := Disk.create_along_names formed rooted.isName
    (Decimal.is_name_encode id.value.toNat) above
  rw [← rooted.along id] at along
  unfold checkDirectory directoryPlace
  rw [Disk.prepare_fst, rooted.censuses_place]
  unfold Disk.createDirectories
  cases Disk.checkPath (censusDirectory root id) with
  | error fault => rfl
  | ok _ => simp only [along]

/-- Once its directory is made, a store is found in its place. -/
theorem locate_of_prepared (prepared : disk.Prepared (some (censusDirectory root id))) :
    disk.locate (censusPath root id) =
      match Disk.checkPath (censusPath root id) with
      | .error fault => .error fault
      | .ok () => .ok (storePlace disk root id) := by
  obtain ⟨-, target, walked⟩ := prepared
  have isTarget := Disk.follow_of_walk walked
  rw [origin_census_directory, segments_census_directory] at walked isTarget
  rw [Disk.follow_append, Disk.follow_cons, (Decimal.is_name_encode id.value.toNat).step]
    at isTarget
  have notSelf : Path.isSelf storeFileName = false := by decide
  have forward : storeFileName ≠ ".." := by decide
  have short : ¬Disk.nameLimit < Utf8.pathSize storeFileName := by decide
  simp only [Disk.locate, bind, Except.bind, segments_census_path, List.dropLast_concat,
    List.getLast?_concat, Option.getD_some, origin_census_path, walked, notSelf, forward, short,
    decide_false, Bool.or_self, Bool.false_eq_true, if_false, isTarget]
  cases Disk.checkPath (censusPath root id) <;> rfl

/-- The directories of a census take no place where a store is to lie. -/
theorem Rooted.made_place (rooted : Rooted root name above disk) (id other : CensusId) :
    (disk.prepare (some (censusDirectory root other))).2.isDirectory (storePlace disk root id) =
      disk.isDirectory (storePlace disk root id) := by
  have grows := disk.prepare_grows (some (censusDirectory root other))
  rw [Bool.eq_iff_iff]
  refine ⟨fun added => ?_, grows.directories _⟩
  rcases rooted.made_directories added with before | isCensuses | isDirectory
  · exact before
  · have lengths := congrArg List.length isCensuses
    simp only [storePlace, List.length_cons] at lengths
    omega
  · have lengths := congrArg List.length isDirectory
    simp only [storePlace, directoryPlace, List.length_cons] at lengths
    omega

def entry (disk : Disk) (place : Location) : Except StoreFault Store :=
  match disk.fileAt? place with
  | none => .ok Store.empty
  | some file =>
      if disk.isHeld file then .error .alreadyOpen else shownStore (some (disk.content file))

def openingOf (disk : Disk) (root name : String) (id : CensusId) : Except StoreError Store :=
  match checkPlace disk root name id with
  | .error error => .error error
  | .ok () =>
      match entry disk (storePlace disk root id) with
      | .error fault => .error (.openFile (censusPath root id) fault)
      | .ok store => .ok store

theorem entry_of_unheld {place : Location}
    (unheld : ∀ file, disk.fileAt? place = some file → disk.isHeld file = false) :
    entry disk place = shownStore (disk.file? place) := by
  rw [entry]
  cases named : disk.fileAt? place with
  | none =>
      rw [Disk.file_eq_none_iff.mpr named]
      rfl
  | some file =>
      simp only [unheld file named, Bool.false_eq_true, if_false, Disk.file_of_named named]

theorem entry_grows (grows : disk.Grows later) (place : Location) :
    entry later place = entry disk place := by
  simp only [entry, grows.file_at, grows.is_held, grows.content]

theorem open_store_of_located {path : String} {place : Location} (formed : disk.WellFormed)
    (known : disk.HeldFilesKnown) (located : disk.locate path = .ok place)
    (free : disk.isDirectory place = false) :
    (∃ fault, entry disk place = .error fault ∧ (disk.openStore path).1 = .error fault) ∨
      ∃ file store, entry disk place = .ok store ∧ (disk.openStore path).1 = .ok file ∧
        (disk.openStore path).2.storeAt file = store := by
  simp only [Disk.openStore, located, free, Bool.false_eq_true, if_false]
  by_cases taken : ∃ file, disk.fileAt? place = some file ∧ disk.isHeld file = true
  · obtain ⟨file, named, held⟩ := taken
    left
    refine ⟨.alreadyOpen, ?_, ?_⟩
    · rw [entry, named]
      exact if_pos held
    · rw [Disk.file_for_of_named named]
      simp only [Disk.openStoreFile, held, if_true]
  · have unheld : ∀ file, disk.fileAt? place = some file → disk.isHeld file = false := by
      intro file named
      rw [← Bool.not_eq_true]
      exact fun held => taken ⟨file, named, held⟩
    have inRange := (formed.file_for free).in_range _ _ (disk.file_at_file_for place)
    rw [entry_of_unheld unheld, ← shown_file_for]
    simp only [open_store_file_spec _ _ (Disk.unheld_file_for known unheld)]
    cases shownStore (some ((disk.fileFor place).2.content (disk.fileFor place).1)) with
    | error fault => exact Or.inl ⟨fault, rfl, rfl⟩
    | ok store =>
        refine Or.inr ⟨_, store, rfl, rfl, ?_⟩
        rw [Disk.store_at_hold, Disk.storeAt, Disk.setStore, Disk.content_set_content_self inRange]
        rfl

/-- Opening the store of a census comes to what can be told of it beforehand. -/
theorem Rooted.open_store_in (rooted : Rooted root name above disk) (formed : disk.WellFormed)
    (known : disk.HeldFilesKnown) (id : CensusId) :
    (∃ error, openingOf disk root name id = .error error ∧
        (openStoreIn disk (some (censusDirectory root id)) (censusPath root id)).1 =
          .error error) ∨
      ∃ file store, openingOf disk root name id = .ok store ∧
        (openStoreIn disk (some (censusDirectory root id)) (censusPath root id)).1 = .ok file ∧
        (openStoreIn disk (some (censusDirectory root id)) (censusPath root id)).2.storeAt file =
          store := by
  have grows := disk.prepare_grows (some (censusDirectory root id))
  have madeFormed := Disk.prepare_well_formed formed (some (censusDirectory root id))
  have failure := rooted.prepare_fst formed id
  have isDirectory := rooted.made_place id id
  unfold openStoreIn openingOf checkPlace
  cases preparing : disk.prepare (some (censusDirectory root id)) with
  | mk answer made =>
      rw [preparing] at grows madeFormed failure isDirectory
      cases checked : checkDirectory disk root name id with
      | error fault =>
          rw [checked] at failure
          simp only at failure
          rw [failure]
          exact Or.inl ⟨_, rfl, rfl⟩
      | ok _ =>
          rw [checked] at failure
          simp only at failure isDirectory
          rw [failure] at preparing ⊢
          have located := locate_of_prepared (Disk.prepared_of_prepare preparing)
          rw [store_place_extends grows.toExtends] at located
          simp only
          cases pathChecked : Disk.checkPath (censusPath root id) with
          | error fault =>
              rw [pathChecked] at located
              simp only [Disk.openStore, located]
              exact Or.inl ⟨_, rfl, rfl⟩
          | ok _ =>
              rw [pathChecked] at located
              simp only at located
              cases blocked : disk.isDirectory (storePlace disk root id) with
              | true =>
                  rw [blocked] at isDirectory
                  simp only [Disk.openStore, located, isDirectory, if_true]
                  exact Or.inl ⟨_, rfl, rfl⟩
              | false =>
                  rw [blocked] at isDirectory
                  simp only [Bool.false_eq_true, if_false]
                  rcases open_store_of_located madeFormed (grows.known known) located isDirectory with
                    ⟨fault, refused, failed⟩ | ⟨file, store, offered, opened, holds⟩
                  · rw [entry_grows grows] at refused
                    left
                    refine ⟨.openFile (censusPath root id) fault, ?_, ?_⟩
                    · rw [refused]
                    · revert failed
                      cases made.openStore (censusPath root id) with
                      | mk answer after =>
                          intro failed
                          simp only at failed
                          rw [failed]
                  · rw [entry_grows grows] at offered
                    right
                    refine ⟨file, store, ?_, ?_⟩
                    · rw [offered]
                    · revert opened holds
                      cases made.openStore (censusPath root id) with
                      | mk answer after =>
                          intro opened holds
                          simp only at opened holds
                          rw [opened]
                          exact ⟨rfl, holds⟩

/-- The set of a census that has not been loaded, or why it cannot be. -/
def access (disk : Disk) (root name : String) (id : CensusId) :
    Except RegistryError IdentitySet :=
  match openingOf disk root name id with
  | .error error => .error (.load id error)
  | .ok store =>
      match IdentitySet.load store.census with
      | .error error => .error (.identitySet id error)
      | .ok set => .ok set

/-- The set of a census, which is loaded on first use. -/
def setAt (registry : Registry) (id : CensusId) : Except RegistryError IdentitySet :=
  (registry.query id .ok).1

variable {registry : Registry} {census : LoadedCensus}

theorem set_at_of_found (found : registry.find? id = some census) :
    registry.setAt id = .ok (registry.setOf census) := by
  unfold setAt query resolve
  rw [found]

theorem load_of_refused {error : StoreError}
    (failed : (openStoreIn registry.disk (some (censusDirectory registry.censusRoot id))
      (censusPath registry.censusRoot id)).1 = .error error) :
    (registry.load id).1 = .error (.load id error) := by
  unfold load
  cases opening : openStoreIn registry.disk (some (censusDirectory registry.censusRoot id))
      (censusPath registry.censusRoot id) with
  | mk answer disk =>
      rw [opening] at failed
      simp only at failed
      simp only [opening, failed]

theorem load_of_opened {file : FileId} {store : Store}
    (opened : (openStoreIn registry.disk (some (censusDirectory registry.censusRoot id))
      (censusPath registry.censusRoot id)).1 = .ok file)
    (holds : (openStoreIn registry.disk (some (censusDirectory registry.censusRoot id))
      (censusPath registry.censusRoot id)).2.storeAt file = store) :
    (∃ error, IdentitySet.load store.census = .error error ∧
        (registry.load id).1 = .error (.identitySet id error)) ∨
      ∃ set, IdentitySet.load store.census = .ok set ∧
        (registry.load id).1 = .ok ⟨id, file, set.sealed⟩ ∧
        (registry.load id).2.disk.storeAt file = store := by
  unfold load
  cases opening : openStoreIn registry.disk (some (censusDirectory registry.censusRoot id))
      (censusPath registry.censusRoot id) with
  | mk answer disk =>
      rw [opening] at opened holds
      simp only at opened holds
      simp only [opening, opened, holds]
      cases IdentitySet.load store.census with
      | error error => exact Or.inl ⟨error, rfl, rfl⟩
      | ok set => exact Or.inr ⟨set, rfl, rfl, holds⟩

theorem set_at_of_load (absent : registry.find? id = none) :
    registry.setAt id =
      match registry.load id with
      | (.error error, _) => .error error
      | (.ok census, after) => .ok (after.setOf census) := by
  unfold setAt query resolve
  rw [absent]
  simp only
  generalize registry.load id = result
  obtain ⟨answer, after⟩ := result
  cases answer with
  | error error => rfl
  | ok census => rfl

theorem Rooted.set_at_of_absent (rooted : Rooted registry.censusRoot name above registry.disk)
    (formed : registry.disk.WellFormed) (known : registry.disk.HeldFilesKnown)
    (absent : registry.find? id = none) :
    registry.setAt id = access registry.disk registry.censusRoot name id := by
  refine (set_at_of_load absent).trans ?_
  unfold access
  rcases rooted.open_store_in formed known id with
    ⟨error, isError, failed⟩ | ⟨file, store, isStore, opened, holds⟩
  · have failing := load_of_refused failed
    rw [isError]
    cases loading : registry.load id with
    | mk answer after =>
        rw [loading] at failing
        simp only at failing
        rw [failing]
  -- The store is the one that was told of, so what it is loaded as is, too.
  · rw [isStore]
    rcases load_of_opened opened holds with
      ⟨error, fails, failing⟩ | ⟨set, loads, loaded, stays⟩
    · simp only [fails]
      cases loading : registry.load id with
      | mk answer after =>
          rw [loading] at failing
          simp only at failing
          rw [failing]
    · simp only [loads]
      cases loading : registry.load id with
      | mk answer after =>
          rw [loading] at loaded stays
          simp only at loaded stays
          rw [loaded]
          simp only [setOf, tablesOf, stays, ← IdentitySet.load_tables loads]

end Registry

end CensusNode
