import CensusNode.Json.Format
import CensusNode.Proofs.Json.Variants
import Mathlib.Algebra.Group.Nat.Defs

/-!
Formats that give values back. A format restores a value when it reads the value from the JSON it
writes for it, and it tolerates variants of a value when it reads the value from each of them as well.
A record does so from any object in which the name of each field leads to a variant of what was
written for it, so neither the order of the members nor strangers among them matter.
-/

namespace CensusNode

variable {α β : Type} {choices : List String}

namespace Format

def Restores (format : Format α) (value : α) : Prop :=
  format.read (format.write value) = .ok value

def Tolerates (format : Format α) (choices : List String) (value : α) : Prop :=
  ∀ json, Json.Variant choices (format.write value) json → format.read json = .ok value

theorem Tolerates.restores {format : Format α} {value : α}
    (tolerates : format.Tolerates choices value) : format.Restores value :=
  tolerates _ (.same _)

theorem Tolerates.refine {format : Format α} {pack : α → Except ReadFault β} {unpack : β → α}
    {value : β} (tolerates : format.Tolerates choices (unpack value))
    (packed : pack (unpack value) = .ok value) :
    (format.refine pack unpack).Tolerates choices value := by
  intro json varies
  simp only [Format.refine]
  rw [tolerates json varies]
  exact packed

theorem Tolerates.map {format : Format α} {pack : α → β} {unpack : β → α} {value : β}
    (tolerates : format.Tolerates choices (unpack value)) (packed : pack (unpack value) = value) :
    (format.map pack unpack).Tolerates choices value :=
  tolerates.refine (congrArg Except.ok packed)

theorem string_tolerates (value : String) : string.Tolerates choices value := by
  intro json varies
  cases varies
  rfl

theorem integer_tolerates {low high value : Int} (within : low ≤ value ∧ value ≤ high) :
    (integer low high).Tolerates choices value := by
  intro json varies
  cases varies
  exact if_pos within

theorem natural_tolerates {high value : Nat} (within : value ≤ high) :
    (natural high).Tolerates choices value := by
  apply Tolerates.map
  · apply integer_tolerates
    simp only [Int.ofNat_eq_natCast]
    omega
  · rfl

theorem count_tolerates {value : Nat} (fits : value < 2 ^ 64) : count.Tolerates choices value :=
  natural_tolerates (Nat.le_of_lt_succ fits)

theorem byte_tolerates (value : UInt8) : byte.Tolerates choices value := by
  apply Tolerates.map
  · exact natural_tolerates (Nat.le_of_lt_succ value.toNat_lt)
  · exact UInt8.ofNat_toNat

theorem word16_tolerates (value : UInt16) : word16.Tolerates choices value := by
  apply Tolerates.map
  · exact natural_tolerates (Nat.le_of_lt_succ value.toNat_lt)
  · exact UInt16.ofNat_toNat

theorem word64_tolerates (value : UInt64) : word64.Tolerates choices value := by
  apply Tolerates.map
  · exact count_tolerates value.toNat_lt
  · exact UInt64.ofNat_toNat

theorem list_tolerates {format : Format α} {values : List α}
    (each : ∀ value ∈ values, format.Tolerates choices value) :
    format.list.Tolerates choices values := by
  have items {others : List Json}
      (alike : Json.ItemVariants choices (values.map format.write) others) :
      readItems format others = .ok values := by
    induction values generalizing others with
    | nil =>
        cases alike
        rfl
    | cons value rest induction =>
        cases alike with
        | cons first remaining =>
            have read := each value List.mem_cons_self _ first
            have later := induction (fun other member =>
              each other (List.mem_cons_of_mem _ member)) remaining
            simp only [readItems, read, later]
  intro json varies
  cases varies with
  | same =>
      apply items
      exact Json.ItemVariants.refl _
  | array alike => exact items alike

theorem option_tolerates {format : Format α} {value : Option α}
    (present : ∀ found, value = some found → format.Tolerates choices found)
    (written : ∀ found, format.write found ≠ .null) :
    format.option.Tolerates choices value := by
  intro json varies
  cases value with
  | none =>
      cases varies
      rfl
  | some found =>
      have read := present found rfl json varies
      cases json with
      | null => exact absurd varies.of_null (written found)
      | _ => simp only [option, read]

theorem one_of_tolerates {values : List α} {name : α → String} {value : α}
    (found : values.find? (fun other => name other = name value) = some value) :
    (oneOf values name).Tolerates choices value := by
  have member : value ∈ values := List.mem_of_find?_eq_some found
  have known : (values.map name).contains (name value) = true :=
    List.contains_iff_mem.mpr (List.mem_map_of_mem member)
  intro json varies
  cases varies
  simp only [oneOf, choice, known, if_true, found, bare]

end Format

namespace Record

def Holds (record : Record α) (choices : List String) (value : α) (members : List (String × Json)) :
    Prop :=
  ∀ name json, (name, json) ∈ record.members value →
    ∃ other, members.lookup name = some other ∧ Json.Variant choices json other

def Tolerates (record : Record α) (choices : List String) (value : α) : Prop :=
  ∀ members, record.Holds choices value members →
    record.faults members = [] ∧ record.ofMembers members = .ok value

theorem field_tolerates (name : String) {format : Format α} {value : α}
    (tolerates : format.Tolerates choices value) (absentMember absentItem : Except ReadFault α) :
    (field name format absentMember absentItem).Tolerates choices value := by
  intro members holds
  obtain ⟨other, found, varies⟩ := holds name (format.write value) (List.mem_singleton_self _)
  have read := tolerates other varies
  simp [field, found, read]

theorem Tolerates.pair {first : Record α} {second : Record β} {value : α × β}
    (left : first.Tolerates choices value.1) (right : second.Tolerates choices value.2) :
    (first.pair second).Tolerates choices value := by
  intro members holds
  obtain ⟨noFaults, firstRead⟩ := left members fun name json member =>
    holds name json (List.mem_append_left _ member)
  obtain ⟨noMore, secondRead⟩ := right members fun name json member =>
    holds name json (List.mem_append_right _ member)
  simp [Record.pair, noFaults, noMore, firstRead, secondRead]

theorem Tolerates.map {record : Record α} {pack : α → β} {unpack : β → α} {value : β}
    (tolerates : record.Tolerates choices (unpack value)) (packed : pack (unpack value) = value) :
    (record.map pack unpack).Tolerates choices value := by
  intro members holds
  obtain ⟨noFaults, read⟩ := tolerates members holds
  simp [Record.map, noFaults, read, packed]

/-- A variant of the object that is written holds every field, when no two fields have the same
name. -/
theorem Tolerates.format {record : Record α} {value : α} (tolerates : record.Tolerates choices value)
    (distinct : ((record.members value).map Prod.fst).Nodup) :
    record.format.Tolerates choices value := by
  intro json varies
  obtain ⟨members, isObject, holds⟩ := Json.Variant.lookup varies distinct
  obtain ⟨noFaults, read⟩ := tolerates members holds
  simp only [isObject, Record.format, noFaults, firstFault?]
  exact read

end Record

end CensusNode
