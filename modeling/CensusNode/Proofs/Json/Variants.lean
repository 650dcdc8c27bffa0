import CensusNode.Json.Basic
import Mathlib.Data.List.Nodup

/-!
Variants of JSON values. A variant of an object has variants of its members in any order and may have
other members besides, whose names the object does not use. An object that stands for a choice has a
single member; nothing is added to it. Nothing else can vary, at any depth.
-/

namespace CensusNode.Json

mutual

/-- The second value is a variant of the first. Objects whose only member has one of the names in
`choices` stand for choices. -/
inductive Variant (choices : List String) : Json → Json → Prop
  | same (json : Json) : Variant choices json json
  | array {items others : List Json} (alike : ItemVariants choices items others) :
      Variant choices (.array items) (.array others)
  | choice {name : String} {payload other : Json} (isChoice : name ∈ choices)
      (alike : Variant choices payload other) :
      Variant choices (.object [(name, payload)]) (.object [(name, other)])
  | record {members varied strangers others : List (String × Json)}
      (isRecord : ∀ name payload, members = [(name, payload)] → name ∉ choices)
      (alike : MemberVariants choices members varied)
      (unknown : ∀ stranger ∈ strangers, stranger.1 ∉ members.map Prod.fst)
      (order : (varied ++ strangers).Perm others) :
      Variant choices (.object members) (.object others)

inductive ItemVariants (choices : List String) : List Json → List Json → Prop
  | nil : ItemVariants choices [] []
  | cons {item other : Json} {items others : List Json} (first : Variant choices item other)
      (rest : ItemVariants choices items others) :
      ItemVariants choices (item :: items) (other :: others)

inductive MemberVariants (choices : List String) :
    List (String × Json) → List (String × Json) → Prop
  | nil : MemberVariants choices [] []
  | cons {name : String} {json other : Json} {members others : List (String × Json)}
      (first : Variant choices json other) (rest : MemberVariants choices members others) :
      MemberVariants choices ((name, json) :: members) ((name, other) :: others)

end

variable {choices : List String} {json other : Json} {name : String}
  {members varied : List (String × Json)}

theorem ItemVariants.refl (items : List Json) : ItemVariants choices items items := by
  induction items with
  | nil => exact .nil
  | cons item items induction => exact .cons (.same item) induction

theorem MemberVariants.refl (members : List (String × Json)) :
    MemberVariants choices members members := by
  induction members with
  | nil => exact .nil
  | cons member members induction => exact .cons (.same member.2) induction

theorem Variant.of_null (varies : Variant choices json .null) : json = .null := by
  cases varies
  rfl

theorem MemberVariants.names (alike : MemberVariants choices members varied) :
    varied.map Prod.fst = members.map Prod.fst := by
  induction members generalizing varied with
  | nil =>
      cases alike
      rfl
  | cons member members induction =>
      cases alike with
      | cons first rest => simp only [List.map_cons, induction rest]

theorem MemberVariants.exists_of_mem (alike : MemberVariants choices members varied)
    (member : (name, json) ∈ members) :
    ∃ other, (name, other) ∈ varied ∧ Variant choices json other := by
  induction members generalizing varied with
  | nil => cases member
  | cons head members induction =>
      cases alike with
      | cons first rest =>
          rcases List.mem_cons.mp member with isFirst | inRest
          · cases isFirst
            exact ⟨_, List.mem_cons_self, first⟩
          · obtain ⟨other, found, varies⟩ := induction rest inRest
            exact ⟨other, List.mem_cons_of_mem _ found, varies⟩

theorem lookup_of_unique (member : (name, json) ∈ members)
    (unique : ∀ other, (name, other) ∈ members → other = json) :
    members.lookup name = some json := by
  cases found : members.lookup name with
  | none =>
      have absent := List.lookup_eq_none_iff.mp found (name, json) member
      simp at absent
  | some other =>
      obtain ⟨before, after, split, -⟩ := List.lookup_eq_some_iff.mp found
      have isMember : (name, other) ∈ members := by
        rw [split]
        exact List.mem_append_right before List.mem_cons_self
      rw [unique other isMember]

theorem eq_of_mem_of_distinct (distinct : (members.map Prod.fst).Nodup)
    (member : (name, json) ∈ members) (another : (name, other) ∈ members) : other = json :=
  congrArg Prod.snd (List.inj_on_of_nodup_map distinct another member rfl)

theorem Variant.turned (several : 1 < members.length)
    (alike : MemberVariants choices members varied) (stranger : String × Json)
    (unknown : stranger.1 ∉ members.map Prod.fst) :
    Variant choices (.object members) (.object (stranger :: varied.reverse)) := by
  apply Variant.record _ alike
  · intro other isStranger
    rw [List.mem_singleton.mp isStranger]
    exact unknown
  · have order := (List.reverse_perm (varied ++ [stranger])).symm
    rwa [List.reverse_append, List.reverse_singleton, List.singleton_append] at order
  · intro name payload single
    rw [single, List.length_singleton] at several
    exact absurd several (Nat.lt_irrefl 1)

/-- In a variant of an object every name leads to a variant of what it led to. -/
theorem Variant.lookup {varying : Json} (varies : Variant choices (.object members) varying)
    (distinct : (members.map Prod.fst).Nodup) : ∃ others, varying = .object others ∧
      ∀ name json, (name, json) ∈ members →
        ∃ other, others.lookup name = some other ∧ Variant choices json other := by
  cases varies with
  | same =>
      refine ⟨members, rfl, ?_⟩
      intro name json member
      refine ⟨json, ?_, .same json⟩
      exact lookup_of_unique member fun _ => eq_of_mem_of_distinct distinct member
  | @choice only payload other isChoice alike =>
      refine ⟨_, rfl, ?_⟩
      intro name json member
      cases List.mem_singleton.mp member
      exact ⟨other, List.lookup_cons_self, alike⟩
  | @record _ varied strangers others isRecord alike unknown order =>
      refine ⟨others, rfl, ?_⟩
      intro name json member
      obtain ⟨other, found, isVariant⟩ := alike.exists_of_mem member
      refine ⟨other, ?_, isVariant⟩
      apply lookup_of_unique (order.mem_iff.mp (List.mem_append_left strangers found))
      intro another inOthers
      rw [← alike.names] at distinct unknown
      rcases List.mem_append.mp (order.mem_iff.mpr inOthers) with inVaried | isStranger
      · exact eq_of_mem_of_distinct distinct found inVaried
      · have named : name ∈ varied.map Prod.fst := List.mem_map_of_mem found
        exact absurd named (unknown _ isStranger)

end CensusNode.Json
