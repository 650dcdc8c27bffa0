import CensusNode.Proofs.Disk.Lead
import CensusNode.Proofs.Registry.StoreFile

/-!
The directories of censuses below any path. Each is the path with the number of its census as one
more name, so that it is determined by the identifier, and two of them part at that name: neither
lies inside of the other, even if the one number begins with the other. A text that is read as an
identifier is its number, filled up with zeros, after a plus sign or none, so that all texts of an
identifier lead to one store.
-/

namespace CensusNode

open CensusNode.Path

section

variable {names : List String}

theorem Path.solid_names (all : ∀ name ∈ names, IsName name) : solid names = names := by
  rw [solid, List.filter_eq_self]
  intro name member
  simp [(all name member).onward]

theorem Path.follow_names (all : ∀ name ∈ names, IsName name) (location : Location) :
    Disk.follow location names = names.reverse ++ location := by
  induction names generalizing location with
  | nil => rfl
  | cons name rest induction =>
      rw [List.forall_mem_cons] at all
      rw [Disk.follow_cons, all.1.step, induction all.2, List.reverse_cons, List.append_assoc]
      rfl

theorem Path.resolved_names (all : ∀ name ∈ names, IsName name) : resolved names = names := by
  rw [resolved, follow_names all, List.append_nil, List.reverse_reverse]

theorem Path.descends_names (all : ∀ name ∈ names, IsName name) (depth : Nat)
    (some_left : 0 < depth + names.length) : descends depth names = true := by
  induction names generalizing depth with
  | nil => exact decide_eq_true some_left
  | cons name rest induction =>
      rw [List.forall_mem_cons] at all
      rw [descends, all.1.onward, if_neg (by decide), if_neg all.1.forward]
      exact induction all.2 (depth + 1) (by omega)

end

namespace CensusId

/-- The text of an identifier without a sign and without leading zeros. -/
def canonical (id : CensusId) : String := Decimal.encode id.value.toNat

variable {text : String} {id : CensusId}

theorem parse_eq_ok_iff_decode :
    parse text = .ok id ↔ Decimal.decode limit text = .ok id.value.toNat := by
  rw [parse]
  cases decoded : Decimal.decode limit text with
  | error fault => simp
  | ok number =>
      have small : number < 2 ^ 64 := Nat.lt_succ_of_le (Decimal.decode_eq_ok_iff.mp decoded).1
      have value : (UInt64.ofNat number).toNat = number := UInt64.toNat_ofNat_of_lt' small
      simp only [Except.ok.injEq]
      constructor
      · rintro rfl
        exact value.symm
      · rintro rfl
        rw [UInt64.ofNat_toNat]

/-- A text in ASCII digits, which does not start with a zero unless it is nothing else. -/
structure IsPlainNumber (text : String) : Prop where
  digits : ∀ char ∈ text.toList, Decimal.isDigit char = true
  leading : text.toList.head? = some '0' → text = "0"

theorem canonical_is_plain (id : CensusId) : IsPlainNumber id.canonical where
  digits _ member := Decimal.is_digit_of_mem_encode member
  leading zero := by
    rw [canonical, Decimal.encode, String.toList_ofList] at zero
    rw [canonical, Decimal.eq_zero_of_head_digits zero]
    decide +kernel

theorem parse_canonical (id : CensusId) : parse id.canonical = .ok id :=
  parse_eq_ok_iff_decode.mpr (Decimal.decode_encode (Nat.le_of_lt_succ id.value.toNat_lt))

/-- The texts of an identifier: its canonical text after any zeros and a plus sign or none. -/
theorem parse_eq_ok_iff :
    parse text = .ok id ↔ ∃ sign zeros, (sign = "" ∨ sign = "+") ∧
      text = sign ++ String.ofList (List.replicate zeros '0') ++ id.canonical := by
  rw [parse_eq_ok_iff_decode, Decimal.decode_eq_ok_iff]
  constructor
  · rintro ⟨-, sign, width, isSign, chars⟩
    refine ⟨String.ofList sign, width - (Decimal.digits id.value.toNat).length, ?_, ?_⟩
    · exact isSign.imp (congrArg String.ofList) (congrArg String.ofList)
    · apply String.toList_injective
      rw [chars, canonical, Decimal.encode, Decimal.padded]
      simp only [String.toList_append, String.toList_ofList, List.append_assoc]
  · rintro ⟨sign, zeros, isSign, rfl⟩
    refine ⟨Nat.le_of_lt_succ id.value.toNat_lt, sign.toList,
      zeros + (Decimal.digits id.value.toNat).length,
      isSign.imp (congrArg String.toList) (congrArg String.toList), ?_⟩
    rw [← Decimal.zeros_digits_eq_padded, canonical, Decimal.encode]
    simp only [String.toList_append, String.toList_ofList, List.append_assoc]

end CensusId

namespace Registry

variable {registry later : Registry} {root : String} {id other : CensusId} {census : LoadedCensus}

theorem under_census_directory (root : String) (id : CensusId) :
    Under root [id.canonical] (censusDirectory root id) :=
  (under_self root).join_plain (Decimal.is_name_encode _).plain

theorem under_census_path (root : String) (id : CensusId) :
    Under root [id.canonical, storeFileName] (censusPath root id) :=
  (under_census_directory root id).join_plain is_name_store_file.plain

/-- Paths are apart that lead through the directories of different censuses. -/
theorem apart_of_ne {first second : String} {names : List String} (different : id ≠ other)
    (isNames : ∀ name ∈ names, IsName name) (under : Under root (id.canonical :: names) first)
    (beside : Under root (other.canonical :: names) second) : Apart first second := by
  have all (id : CensusId) : ∀ name ∈ id.canonical :: names, IsName name :=
    List.forall_mem_cons.mpr ⟨Decimal.is_name_encode _, isNames⟩
  have down (id : CensusId) : descends 0 (id.canonical :: names) = true :=
    descends_names (all id) 0 (by simp)
  have numbers : id.canonical ≠ other.canonical :=
    fun same => different (CensusId.eq_of_encode same)
  rw [under.apart_iff beside (down id) (down other), solid_names (all id), solid_names (all other),
    resolved_names (all id), resolved_names (all other), and_self, Diverge, List.cons_prefix_cons,
    List.cons_prefix_cons]
  exact ⟨fun same => numbers same.1, fun same => numbers same.1.symm⟩

theorem directories_apart (root : String) (different : id ≠ other) :
    Apart (censusDirectory root id) (censusDirectory root other) :=
  apart_of_ne different (by simp) (under_census_directory root id)
    (under_census_directory root other)

theorem paths_apart (root : String) (different : id ≠ other) :
    Apart (censusPath root id) (censusPath root other) :=
  apart_of_ne different (List.forall_mem_singleton.mpr is_name_store_file)
    (under_census_path root id) (under_census_path root other)

theorem eq_of_not_apart {place : CensusId → String}
    (apart : ∀ {id other}, id ≠ other → Apart (place id) (place other))
    (same : place id = place other) : id = other := by
  by_contra different
  have beside := (apart different).written.1
  rw [same] at beside
  exact beside ⟨rfl, List.prefix_refl _⟩

theorem file_of_load (known : registry.disk.HeldFilesKnown)
    (loaded : registry.load id = (.ok census, later)) :
    census.id = id ∧ later.disk.fileAt?
      (lead registry.disk.workingDirectory (censusPath registry.censusRoot id)) =
        some census.file := by
  unfold load at loaded
  rcases open_store_in_cases known (some (censusDirectory registry.censusRoot id))
      (censusPath registry.censusRoot id) with
    ⟨error, -, refused⟩ | ⟨-, refused⟩ | ⟨location, store, available, -, opened⟩
  · simp only [refused] at loaded
    cases loaded
  · simp only [refused] at loaded
    cases loaded
  · have isPlace := Disk.lead_of_locate available.located
    rw [(registry.disk.prepare_grows _).working_directory] at isPlace
    simp only [opened] at loaded
    split at loaded
    · cases loaded
    · cases loaded
      rw [← isPlace]
      exact ⟨rfl, Disk.with_store_named _ location store⟩

/-- The directory of a census, and with it the path of its store, is determined by the identifier
and determines it; the directories of two censuses are apart, and so are their stores. Every text
that is read as an identifier is the canonical one after zeros and a sign, and the canonical one,
which names the directory, is read as the same identifier. No place holds the stores of two
censuses, and what is loaded as a census is what lies at its path. -/
theorem directories_follow_identifiers :
    (∀ root id other,
      (censusDirectory root id = censusDirectory root other ↔ id = other) ∧
      (censusPath root id = censusPath root other ↔ id = other) ∧
      (id ≠ other → Apart (censusDirectory root id) (censusDirectory root other) ∧
        Apart (censusPath root id) (censusPath root other))) ∧
    (∀ root id, censusDirectory root id = join root id.canonical ∧
      Under root [id.canonical] (censusDirectory root id) ∧
      Under root [id.canonical, storeFileName] (censusPath root id)) ∧
    (∀ text id, CensusId.parse text = .ok id ↔ ∃ sign zeros, (sign = "" ∨ sign = "+") ∧
      text = sign ++ String.ofList (List.replicate zeros '0') ++ id.canonical) ∧
    (∀ id, CensusId.parse id.canonical = .ok id ∧ CensusId.IsPlainNumber id.canonical) ∧
    (∀ (disk : Disk) root id other place, disk.Finds (censusPath root id) place →
      disk.Finds (censusPath root other) place → id = other) ∧
    (∀ (registry later : Registry) id census, registry.disk.HeldFilesKnown →
      registry.load id = (.ok census, later) → census.id = id ∧ later.disk.fileAt?
        (lead registry.disk.workingDirectory (censusPath registry.censusRoot id)) =
          some census.file) := by
  refine ⟨?_, ?_, ?_, ?_, ?_, ?_⟩
  · intro root id other
    refine ⟨⟨eq_of_not_apart (directories_apart root), congrArg _⟩,
      ⟨eq_of_not_apart (paths_apart root), congrArg _⟩, ?_⟩
    intro different
    exact ⟨directories_apart root different, paths_apart root different⟩
  · intro root id
    exact ⟨rfl, under_census_directory root id, under_census_path root id⟩
  · intro text id
    exact CensusId.parse_eq_ok_iff
  · intro id
    exact ⟨id.parse_canonical, id.canonical_is_plain⟩
  · intro disk root id other place finds otherFinds
    by_contra different
    have beside := ((paths_apart root different).resolved disk.workingDirectory).1
    rw [← finds.eq_lead, ← otherFinds.eq_lead] at beside
    exact beside (List.suffix_refl place)
  · intro registry later id census known loaded
    exact file_of_load known loaded

def bareRegistry : Registry := ⟨Disk.nothing, 0, "data//", [], 0⟩

/-- The number of the first census begins that of the twelfth, which a text with a sign and zeros
names. -/
theorem twelfth_census_is_found :
    CensusId.parse "+0012" = .ok ⟨12⟩ ∧
      Apart (censusDirectory "data//" ⟨1⟩) (censusDirectory "data//" ⟨12⟩) ∧
      ∃ census later, bareRegistry.load ⟨12⟩ = (.ok census, later) ∧
        later.disk.fileAt? ["census.redb", "12", "data"] = some census.file ∧
        ¬later.disk.Finds (censusPath "data//" ⟨1⟩) ["census.redb", "12", "data"] := by
  obtain ⟨directories, -, texts, -, places, loads⟩ := directories_follow_identifiers
  have different : (⟨1⟩ : CensusId) ≠ ⟨12⟩ := by decide
  have opened : (bareRegistry.load ⟨12⟩).1.toBool = true := by decide +kernel
  have lies : (bareRegistry.load ⟨12⟩).2.disk.locate (censusPath "data//" ⟨12⟩) =
      .ok ["census.redb", "12", "data"] := by decide +kernel
  have place : lead [] (censusPath "data//" ⟨12⟩) = ["census.redb", "12", "data"] := by
    decide +kernel
  refine ⟨(texts _ _).mpr ⟨"+", 2, Or.inr rfl, by decide +kernel⟩,
    ((directories "data//" ⟨1⟩ ⟨12⟩).2.2 different).1, ?_⟩
  cases loading : bareRegistry.load ⟨12⟩ with
  | mk answer later =>
      rw [loading] at opened lies
      cases answer with
      | error error => cases opened
      | ok census =>
          have found := (loads bareRegistry later ⟨12⟩ census (fun _ held => by cases held)
            loading).2
          have named : later.disk.fileAt? ["census.redb", "12", "data"] = some census.file := by
            rw [← place]
            exact found
          refine ⟨census, later, rfl, named, ?_⟩
          intro alsoFound
          exact different (places later.disk "data//" ⟨1⟩ ⟨12⟩ _ alsoFound (Or.inl lies))

end Registry

end CensusNode
