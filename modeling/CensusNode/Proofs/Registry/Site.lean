import CensusNode.Proofs.Disk.Alike
import CensusNode.Proofs.Ledger.Log
import CensusNode.Proofs.Text.Decimal
import CensusNode.Registry.Basic

/-!
Where a node keeps its files. Below the data directory lie the control store and the directories of
the census stores, each at a place of its own; the ledger lies wherever its path leads.
-/

namespace CensusNode

/-- A name that leads to one place below the directory that it is found in. -/
structure Path.IsName (name : String) : Prop where
  plain : Path.IsPlain name
  onward : Path.isSelf name = false
  forward : name ≠ ".."

theorem Path.IsName.ne_empty {name : String} (isName : Path.IsName name) : name ≠ "" := by
  intro isEmpty
  have onward := isName.onward
  rw [isEmpty] at onward
  cases onward

theorem Path.IsName.step {name : String} (isName : Path.IsName name) (location : Location) :
    Disk.step location name = name :: location := by
  rw [Disk.step, isName.onward, if_neg (by decide), if_neg isName.forward]

theorem StorageConfig.is_name_of_check {field name : String}
    (checked : StorageConfig.checkName field name = .ok ()) : Path.IsName name := by
  rw [StorageConfig.checkName] at checked
  split at checked
  · rename_i component
    simp only [StorageConfig.isComponent, ne_eq, Bool.and_eq_true, decide_eq_true_eq,
      Bool.not_eq_true', List.contains_eq_mem, decide_eq_false_iff_not] at component
    obtain ⟨⟨⟨⟨nonempty, notHere⟩, notBack⟩, noSlash⟩, -⟩ := component
    exact ⟨noSlash, by simp [Path.isSelf, nonempty, notHere], notBack⟩
  · cases checked

theorem StorageConfig.names_of_validate {config : StorageConfig}
    (valid : config.validate = .ok ()) :
    Path.IsName config.controlFile ∧ Path.IsName config.censusDirectory := by
  simp only [StorageConfig.validate, bind, Except.bind] at valid
  cases checked : StorageConfig.checkName "control_db_file" config.controlFile with
  | error fault =>
      rw [checked] at valid
      cases valid
  | ok _ =>
      rw [checked] at valid
      exact ⟨is_name_of_check checked, is_name_of_check valid⟩

theorem NodeConfig.names_of_validate {config : NodeConfig} (valid : config.validate = .ok ()) :
    Path.IsName config.storage.controlFile ∧ Path.IsName config.storage.censusDirectory := by
  simp only [NodeConfig.validate, bind, Except.bind] at valid
  cases checked : config.storage.validate with
  | error fault =>
      rw [checked] at valid
      cases valid
  | ok _ => exact StorageConfig.names_of_validate checked

theorem Decimal.digit_ne {char other : Char} (isDigit : Decimal.isDigit char = true)
    (notDigit : Decimal.isDigit other = false) : char ≠ other := by
  intro same
  rw [same, notDigit] at isDigit
  cases isDigit

theorem Decimal.is_digit_of_mem_encode {number : Nat} {char : Char}
    (member : char ∈ (Decimal.encode number).toList) : Decimal.isDigit char = true := by
  rw [Decimal.encode, String.toList_ofList] at member
  exact Decimal.is_digit_of_mem_digits member

theorem Decimal.encode_ne_nil (number : Nat) : (Decimal.encode number).toList ≠ [] := by
  rw [Decimal.encode, String.toList_ofList]
  exact List.ne_nil_of_length_pos (Decimal.digits_length_pos number)

theorem Decimal.is_name_encode (number : Nat) : Path.IsName (Decimal.encode number) := by
  obtain ⟨first, rest, chars⟩ := List.exists_cons_of_ne_nil (Decimal.encode_ne_nil number)
  have isDigit : Decimal.isDigit first = true := by
    apply Decimal.is_digit_of_mem_encode
    rw [chars]
    exact List.mem_cons_self
  have other {name : String} (special : name.toList.head? ≠ some first) :
      Decimal.encode number ≠ name := by
    intro same
    rw [← same, chars] at special
    exact special rfl
  constructor
  · intro member
    exact Decimal.digit_ne (Decimal.is_digit_of_mem_encode member) (by decide) rfl
  · have notDot : Decimal.encode number ≠ "." := by
      apply other
      intro dot
      exact Decimal.digit_ne isDigit (by decide) (Option.some.inj dot).symm
    have notEmpty : Decimal.encode number ≠ "" := other (by simp)
    simp [Path.isSelf, notDot, notEmpty]
  · apply other
    intro dot
    exact Decimal.digit_ne isDigit (by decide) (Option.some.inj dot).symm

theorem CensusId.eq_of_encode {id other : CensusId}
    (same : Decimal.encode id.value.toNat = Decimal.encode other.value.toNat) : id = other := by
  have values := UInt64.toNat_inj.mp (Decimal.encode_injective same)
  cases id
  cases other
  exact congrArg CensusId.mk values

theorem Registry.is_name_store_file : Path.IsName Registry.storeFileName where
  plain := by
    unfold Path.IsPlain
    decide
  onward := by decide
  forward := by decide

/-- Where a node keeps its files: its configuration, its data directory and its ledger. -/
structure Site where
  config : NodeConfig
  data : Location
  ledger : Location

namespace Site

variable {site : Site} {disk later : Disk}

def control (site : Site) : Location := site.config.storage.controlFile :: site.data

def censuses (site : Site) : Location := site.config.storage.censusDirectory :: site.data

def census (site : Site) (id : CensusId) : Location :=
  Decimal.encode id.value.toNat :: site.censuses

def store (site : Site) (id : CensusId) : Location := Registry.storeFileName :: site.census id

def directoryPath (site : Site) (id : CensusId) : String :=
  Registry.censusDirectory site.config.censusRootPath id

def storePath (site : Site) (id : CensusId) : String :=
  Registry.censusPath site.config.censusRootPath id

/-- The ledger lies at a plain path, and neither the control store nor the directory of the
censuses takes the place of a file that belongs to it. -/
structure Apart (site : Site) : Prop where
  plain : LedgerAddress.place site.config.ledgerPath = .ok (.file site.config.ledgerPath .defaults)
  control : site.control ∉ Ledger.filesOf site.ledger
  censuses : site.censuses ≠ Ledger.journalOf site.ledger

/-- The files are apart, and nothing about the configuration keeps a service from being opened. -/
structure Usable (site : Site) : Prop extends site.Apart where
  valid : site.config.validate = .ok ()
  unbroken : site.config.ledgerPath.toList.idxOf? '\x00' = none
  in_time : site.config.ledger.busyTimeout.millis ≤ Ledger.busyTimeoutLimit

/-- A disk with the directories of a node, on which its files have their places. -/
structure On (site : Site) (disk : Disk) : Prop where
  formed : disk.WellFormed
  control_located : disk.locate site.config.controlPath = .ok site.control
  control_prepared : disk.Prepared (Path.namedParent? site.config.controlPath)
  ledger_located : Ledger.locate disk site.config.ledgerPath = some site.ledger
  ledger_prepared : disk.Prepared (Path.namedParent? site.config.ledgerPath)

theorem On.extends (onDisk : site.On disk) (extended : disk.Extends later)
    (formed : later.WellFormed) : site.On later where
  formed := formed
  control_located := Disk.locate_extends extended onDisk.control_located
  control_prepared := onDisk.control_prepared.extends extended
  ledger_located := by
    rw [Ledger.locate_extends onDisk.formed formed extended onDisk.ledger_prepared,
      onDisk.ledger_located]
  ledger_prepared := onDisk.ledger_prepared.extends extended

namespace Usable

theorem names (usable : site.Usable) :
    Path.IsName site.config.storage.controlFile ∧
      Path.IsName site.config.storage.censusDirectory := NodeConfig.names_of_validate usable.valid

theorem segments_control (usable : site.Usable) :
    Path.segments site.config.controlPath =
      Path.stem site.config.dataDirectory ++ [site.config.storage.controlFile] :=
  Path.segments_join _ usable.names.1.plain

theorem stem_censuses (usable : site.Usable) :
    Path.stem site.config.censusRootPath =
      Path.stem site.config.dataDirectory ++ [site.config.storage.censusDirectory] :=
  Path.stem_join _ usable.names.2.plain usable.names.2.ne_empty

theorem stem_directory (usable : site.Usable) (id : CensusId) :
    Path.stem (site.directoryPath id) = Path.stem site.config.dataDirectory ++
      [site.config.storage.censusDirectory, Decimal.encode id.value.toNat] := by
  have isName := Decimal.is_name_encode id.value.toNat
  rw [directoryPath, Registry.censusDirectory, Path.stem_join _ isName.plain isName.ne_empty,
    usable.stem_censuses, List.append_assoc]
  rfl

theorem segments_directory (usable : site.Usable) (id : CensusId) :
    Path.segments (site.directoryPath id) = Path.stem site.config.dataDirectory ++
      [site.config.storage.censusDirectory, Decimal.encode id.value.toNat] := by
  rw [directoryPath, Registry.censusDirectory,
    Path.segments_join _ (Decimal.is_name_encode id.value.toNat).plain, usable.stem_censuses,
    List.append_assoc]
  rfl

theorem segments_store (usable : site.Usable) (id : CensusId) :
    Path.segments (site.storePath id) = Path.stem site.config.dataDirectory ++
      [site.config.storage.censusDirectory, Decimal.encode id.value.toNat] ++
      [Registry.storeFileName] := by
  have stem := usable.stem_directory id
  rw [directoryPath] at stem
  rw [storePath, Registry.censusPath,
    Path.segments_join _ Registry.is_name_store_file.plain, stem]

theorem origin_control (usable : site.Usable) (disk : Disk) :
    disk.origin site.config.controlPath = disk.origin site.config.dataDirectory := by
  rw [Disk.origin, NodeConfig.controlPath, Path.is_absolute_join _ usable.names.1.plain,
    Disk.origin]

theorem origin_directory (usable : site.Usable) (disk : Disk) (id : CensusId) :
    disk.origin (site.directoryPath id) = disk.origin site.config.dataDirectory := by
  rw [Disk.origin, directoryPath, Registry.censusDirectory,
    Path.is_absolute_join _ (Decimal.is_name_encode id.value.toNat).plain,
    NodeConfig.censusRootPath, Path.is_absolute_join _ usable.names.2.plain, Disk.origin]

theorem origin_store (usable : site.Usable) (disk : Disk) (id : CensusId) :
    disk.origin (site.storePath id) = disk.origin site.config.dataDirectory := by
  have directory := usable.origin_directory disk id
  rw [Disk.origin, directoryPath] at directory
  rw [Disk.origin, storePath, Registry.censusPath,
    Path.is_absolute_join _ Registry.is_name_store_file.plain, directory]

theorem walk_data (usable : site.Usable) (onDisk : site.On disk) :
    disk.walk (disk.origin site.config.dataDirectory) (Path.stem site.config.dataDirectory) =
      .ok site.data := by
  have located := onDisk.control_located
  rw [Disk.locate_eq_ok_iff, usable.segments_control, usable.origin_control] at located
  obtain ⟨-, directory, walked, -, -, isLocation⟩ := located
  rw [List.dropLast_concat] at walked
  rw [walked]
  exact congrArg Except.ok (List.cons.inj isLocation).2.symm

/-- The only directories that are made for a census are its own and that of all censuses. -/
theorem prepare_directories (usable : site.Usable) (onDisk : site.On disk) (id : CensusId)
    {place : Location}
    (isDirectory : (disk.prepare (some (site.directoryPath id))).2.isDirectory place = true) :
    disk.isDirectory place = true ∨ place = site.censuses ∨ place = site.census id := by
  have along : (disk.prepare (some (site.directoryPath id))).2 = disk ∨
      (disk.prepare (some (site.directoryPath id))).2 = (disk.createAlong site.data false
        [site.config.storage.censusDirectory, Decimal.encode id.value.toNat]).2 := by
    have passed := Disk.create_along_of_walk (usable.walk_data onDisk) false
      [site.config.storage.censusDirectory, Decimal.encode id.value.toNat]
    rw [Disk.prepare, Disk.createDirectories]
    cases Disk.checkPath (site.directoryPath id) with
    | error fault => exact Or.inl rfl
    | ok _ =>
        right
        simp only [usable.origin_directory, usable.segments_directory, passed]
        split
        · rename_i made
          rw [made]
        · rename_i failed
          rw [failed]
  rcases along with stays | made
  · rw [stays] at isDirectory
    exact Or.inl isDirectory
  · rw [made] at isDirectory
    rcases Disk.create_along_directories isDirectory with before | new
    · exact Or.inl before
    · simp only [Disk.trail, usable.names.2.step, (Decimal.is_name_encode id.value.toNat).step,
        List.mem_cons, List.not_mem_nil, or_false] at new
      exact Or.inr new

theorem locate_store (usable : site.Usable) (onDisk : site.On disk) {id : CensusId}
    {location : Location} (located : disk.locate (site.storePath id) = .ok location) :
    location = site.store id := by
  rw [Disk.locate_eq_ok_iff, usable.segments_store, usable.origin_store, List.dropLast_concat,
    List.getLast?_concat, Disk.walk_append, usable.walk_data onDisk] at located
  obtain ⟨-, directory, walked, -, -, isLocation⟩ := located
  simp only at walked
  rw [Disk.walk_cons_eq_ok_iff, usable.names.2.step, Disk.walk_cons_eq_ok_iff,
    (Decimal.is_name_encode id.value.toNat).step] at walked
  rw [isLocation, ← Except.ok.inj walked.2.2]
  rfl

end Usable

theorem store_not_companion (site : Site) (id : CensusId) (location : Location) :
    site.store id ∉ Ledger.companions location := by
  intro member
  have ending := Ledger.last_char_of_companion member
  revert ending
  decide

/-- The directory of a census is no companion of a ledger file: its name ends in a digit. -/
theorem census_not_companion (site : Site) (id : CensusId) (location : Location) :
    site.census id ∉ Ledger.companions location := by
  intro member
  have some_digits := Decimal.encode_ne_nil id.value.toNat
  have isDigit := Decimal.is_digit_of_mem_encode (List.getLast_mem some_digits)
  rcases Ledger.last_char_of_companion member with ending | ending
  · rw [List.getLast?_eq_some_getLast some_digits] at ending
    exact Decimal.digit_ne isDigit (by decide) (Option.some.inj ending)
  · rw [List.getLast?_eq_some_getLast some_digits] at ending
    exact Decimal.digit_ne isDigit (by decide) (Option.some.inj ending)

theorem store_ne_control (site : Site) (id : CensusId) : site.store id ≠ site.control := by
  intro same
  have lengths := congrArg List.length same
  simp only [store, census, censuses, control, List.length_cons] at lengths
  omega

theorem store_injective {id other : CensusId} (same : site.store id = site.store other) :
    id = other :=
  CensusId.eq_of_encode (List.cons.inj (List.cons.inj same).2).1

end Site

end CensusNode
