import CensusNode.Census.Tables

/-!
The two tables of members. Tables that represent a list of keys give each key its position in the
list, in the members table and in the look-up table alike. Appending fresh keys from the number of
members on gives tables that represent the longer list.
-/

namespace CensusNode.CensusTables

def indexed : Nat → List Bytes → List (Nat × Bytes)
  | _, [] => []
  | index, key :: rest => (index, key) :: indexed (index + 1) rest

/-- The members table and the look-up table hold exactly the given keys by their positions. -/
structure Represents (tables : CensusTables) (keys : List Bytes) : Prop where
  members_eq : tables.members = indexed 0 keys
  lookup_eq : tables.lookup = (indexed 0 keys).reverse.map Prod.swap

theorem represents_empty : empty.Represents [] := ⟨rfl, rfl⟩

theorem indexed_length (index : Nat) (keys : List Bytes) :
    (indexed index keys).length = keys.length := by
  induction keys generalizing index with
  | nil => rfl
  | cons key rest induction => rw [indexed, List.length_cons, induction, List.length_cons]

theorem indexed_keys (index : Nat) (keys : List Bytes) :
    (indexed index keys).map Prod.snd = keys := by
  induction keys generalizing index with
  | nil => rfl
  | cons key rest induction => rw [indexed, List.map_cons, induction]

theorem indexed_indices (index : Nat) (keys : List Bytes) :
    (indexed index keys).map Prod.fst = List.range' index keys.length := by
  induction keys generalizing index with
  | nil => rfl
  | cons key rest induction =>
      rw [indexed, List.map_cons, induction, List.length_cons, List.range'_succ]

theorem indexed_append (index : Nat) (keys others : List Bytes) :
    indexed index (keys ++ others) =
      indexed index keys ++ indexed (index + keys.length) others := by
  induction keys generalizing index with
  | nil => rfl
  | cons key rest induction =>
      have shift : index + (key :: rest).length = index + 1 + rest.length := by
        rw [List.length_cons]
        omega
      rw [shift, List.cons_append, indexed, induction, indexed, List.cons_append]

theorem mem_keys_of_mem_indexed {index start : Nat} {key : Bytes} {keys : List Bytes}
    (member : (index, key) ∈ indexed start keys) : key ∈ keys := by
  rw [← indexed_keys start keys]
  exact List.mem_map_of_mem member

theorem insert_at_indexed (start : Nat) (keys : List Bytes) (key : Bytes) :
    insertAt (start + keys.length) key (indexed start keys) = indexed start (keys ++ [key]) := by
  induction keys generalizing start with
  | nil => rfl
  | cons first rest induction =>
      have shift : start + (first :: rest).length = start + 1 + rest.length := by
        rw [List.length_cons]
        omega
      rw [indexed, insertAt, if_neg (by simp only [List.length_cons]; omega),
        if_neg (by simp only [List.length_cons]; omega), shift, induction, List.cons_append,
        indexed]

/-- A key that is not looked up yet is put before all others. -/
theorem assign_of_fresh {key : Bytes} {keys : List Bytes} (index start : Nat) (fresh : key ∉ keys) :
    assign key index ((indexed start keys).reverse.map Prod.swap) =
      (key, index) :: (indexed start keys).reverse.map Prod.swap := by
  rw [assign, List.filter_eq_self.mpr]
  intro entry member
  rw [List.mem_map] at member
  obtain ⟨original, inTable, swapped⟩ := member
  rw [List.mem_reverse] at inTable
  have isKey : entry.1 ∈ keys := by
    rw [← swapped]
    exact mem_keys_of_mem_indexed inTable
  rw [decide_eq_true_eq]
  intro same
  rw [same] at isKey
  exact fresh isKey

theorem Represents.append_one {tables : CensusTables} {keys : List Bytes} {key : Bytes}
    (represents : tables.Represents keys) (fresh : key ∉ keys) :
    { tables with
      members := insertAt keys.length key tables.members
      lookup := assign key keys.length tables.lookup }.Represents (keys ++ [key]) := by
  have atEnd := insert_at_indexed 0 keys key
  rw [Nat.zero_add] at atEnd
  constructor
  · rw [represents.members_eq, atEnd]
  · rw [represents.lookup_eq, assign_of_fresh _ _ fresh, indexed_append, Nat.zero_add,
      List.reverse_append, List.map_append]
    rfl

/-- Appending distinct fresh keys represents the longer list. The induction is on the keys that are
left to append. -/
theorem Represents.append {tables : CensusTables} {keys batch : List Bytes}
    (represents : tables.Represents keys) (distinct : (keys ++ batch).Nodup) :
    (tables.append keys.length batch).Represents (keys ++ batch) := by
  induction batch generalizing tables keys with
  | nil => rwa [List.append_nil, CensusTables.append]
  | cons key rest induction =>
      have fresh : key ∉ keys := by
        intro member
        rw [List.nodup_append] at distinct
        exact distinct.2.2 key member key List.mem_cons_self rfl
      have regrouped : keys ++ key :: rest = keys ++ [key] ++ rest := by
        rw [List.append_assoc, List.singleton_append]
      have longer := represents.append_one fresh
      rw [regrouped] at distinct
      have appended := induction longer distinct
      rw [List.length_append, List.length_singleton] at appended
      rw [regrouped, CensusTables.append]
      exact appended

theorem append_append (tables : CensusTables) (index : Nat) (keys others : List Bytes) :
    tables.append index (keys ++ others) =
      (tables.append index keys).append (index + keys.length) others := by
  induction keys generalizing tables index with
  | nil => rfl
  | cons key rest induction =>
      rw [List.cons_append, CensusTables.append, CensusTables.append, induction, List.length_cons,
        Nat.add_assoc, Nat.add_comm 1]

theorem append_eq (tables : CensusTables) (index : Nat) (keys : List Bytes) :
    tables.append index keys =
      { tables with
        members := (tables.append index keys).members
        lookup := (tables.append index keys).lookup } := by
  induction keys generalizing tables index with
  | nil => rfl
  | cons key rest induction =>
      rw [CensusTables.append]
      exact induction _ _

namespace Represents

variable {tables : CensusTables} {keys : List Bytes}

theorem member_keys (represents : tables.Represents keys) : tables.memberKeys = keys := by
  rw [CensusTables.memberKeys, represents.members_eq, indexed_keys]

theorem member_count (represents : tables.Represents keys) : tables.memberCount = keys.length := by
  rw [CensusTables.memberCount, represents.members_eq, indexed_length]

theorem indices (represents : tables.Represents keys) :
    tables.members.map Prod.fst = List.range keys.length := by
  rw [represents.members_eq, indexed_indices, List.range_eq_range']

theorem mem_lookup_iff (represents : tables.Represents keys) (key : Bytes) (index : Nat) :
    (key, index) ∈ tables.lookup ↔ (index, key) ∈ tables.members := by
  rw [represents.lookup_eq, represents.members_eq, List.mem_map]
  constructor
  · rintro ⟨⟨first, second⟩, member, swapped⟩
    rw [Prod.swap_prod_mk, Prod.mk.injEq] at swapped
    rwa [List.mem_reverse, swapped.1, swapped.2] at member
  · intro member
    exact ⟨(index, key), List.mem_reverse.mpr member, rfl⟩

theorem lookup_keys (represents : tables.Represents keys) :
    tables.lookup.map Prod.fst = keys.reverse := by
  have swapped : Prod.fst ∘ Prod.swap = (Prod.snd : Nat × Bytes → Bytes) := rfl
  rw [represents.lookup_eq, List.map_map, swapped, List.map_reverse, indexed_keys]

/-- The look-up table finds a key exactly where the members table has it. -/
theorem lookup_iff (represents : tables.Represents keys) (distinct : keys.Nodup) (key : Bytes)
    (index : Nat) : tables.lookup.lookup key = some index ↔ (index, key) ∈ tables.members := by
  have single : (tables.lookup.map Prod.fst).Nodup := by
    rw [represents.lookup_keys]
    exact List.pairwise_reverse.mpr (distinct.imp fun apart => apart.symm)
  rw [← represents.mem_lookup_iff, List.lookup_eq_some_iff]
  constructor
  · rintro ⟨before, after, split, -⟩
    rw [split]
    exact List.mem_append_right before List.mem_cons_self
  · intro member
    obtain ⟨before, after, split⟩ := List.append_of_mem member
    refine ⟨before, after, split, ?_⟩
    intro entry earlier
    rw [split, List.map_append, List.map_cons, List.nodup_append] at single
    have apart := single.2.2 entry.1 (List.mem_map_of_mem earlier) key List.mem_cons_self
    rw [bne_iff_ne]
    exact apart.symm

end Represents

end CensusNode.CensusTables
