import CensusNode.Proofs.Census.Report

/-!
Tables with members. The tables of a census represent its members, which have the shape of members
and are distinct. A batch is admitted when this stays so with its keys after the members.
-/

namespace CensusNode

open IdentitySet (Admissible isMember rejections)

structure CensusTables.Enrolled (tables : CensusTables) (members : List Bytes) : Prop where
  represents : tables.Represents members
  admissible : ∀ key ∈ members, Admissible key
  distinct : members.Nodup

namespace CensusTables.Enrolled

variable {tables : CensusTables} {members : List Bytes} {batch : List PublicKey}

theorem empty : CensusTables.empty.Enrolled [] where
  represents := represents_empty
  admissible := by simp
  distinct := List.nodup_nil

theorem is_member_iff (enrolled : tables.Enrolled members) (key : Bytes) :
    isMember tables key = true ↔ key ∈ members := by
  rw [IdentitySet.is_member_iff, enrolled.represents.lookup_keys, List.mem_reverse]

theorem reported (enrolled : tables.Enrolled members) (batch : List PublicKey) :
    Reported members batch (rejections tables [] 0 batch) :=
  IdentitySet.rejections_reported enrolled.is_member_iff batch

theorem accepts_iff (enrolled : tables.Enrolled members) :
    rejections tables [] 0 batch = [] ↔
      (∀ key ∈ batch.map PublicKey.bytes, Admissible key) ∧
        (members ++ batch.map PublicKey.bytes).Nodup := by
  rw [IdentitySet.rejections_eq_nil_iff, enrolled.represents.lookup_keys, List.nodup_append]
  constructor
  · rintro ⟨acceptable, distinct⟩
    refine ⟨fun key member => (acceptable key member).1, enrolled.distinct, distinct, ?_⟩
    intro member isMember key inBatch same
    rw [same] at isMember
    exact (acceptable key inBatch).2.2 (List.mem_reverse.mpr isMember)
  · rintro ⟨admissible, -, distinct, apart⟩
    refine ⟨?_, distinct⟩
    intro key inBatch
    refine ⟨admissible key inBatch, List.not_mem_nil, ?_⟩
    intro isMember
    exact apart key (List.mem_reverse.mp isMember) key inBatch rfl

theorem append (enrolled : tables.Enrolled members) (accepted : rejections tables [] 0 batch = []) :
    (tables.append tables.memberCount (batch.map PublicKey.bytes)).Enrolled
      (members ++ batch.map PublicKey.bytes) := by
  obtain ⟨admissible, distinct⟩ := enrolled.accepts_iff.mp accepted
  constructor
  · rw [enrolled.represents.member_count]
    exact enrolled.represents.append distinct
  · intro key member
    rcases List.mem_append.mp member with old | new
    · exact enrolled.admissible key old
    · exact admissible key new
  · exact distinct

theorem of_same {other : CensusTables} (enrolled : tables.Enrolled members)
    (sameMembers : other.members = tables.members) (sameLookup : other.lookup = tables.lookup) :
    other.Enrolled members where
  represents :=
    ⟨sameMembers.trans enrolled.represents.members_eq, sameLookup.trans enrolled.represents.lookup_eq⟩
  admissible := enrolled.admissible
  distinct := enrolled.distinct

/-- Two batches are accepted as one when the first is accepted, and then the second. -/
theorem accepts_append_iff (enrolled : tables.Enrolled members) {first second : List PublicKey} :
    rejections tables [] 0 (first ++ second) = [] ↔
      rejections tables [] 0 first = [] ∧
        rejections (tables.append tables.memberCount (first.map PublicKey.bytes)) [] 0 second = [] := by
  rw [enrolled.accepts_iff, List.map_append, ← List.append_assoc]
  constructor
  · rintro ⟨admissible, distinct⟩
    have accepted : rejections tables [] 0 first = [] := by
      rw [enrolled.accepts_iff]
      exact ⟨fun key member => admissible key (List.mem_append_left _ member),
        (List.nodup_append.mp distinct).1⟩
    refine ⟨accepted, ?_⟩
    rw [(enrolled.append accepted).accepts_iff]
    exact ⟨fun key member => admissible key (List.mem_append_right _ member), distinct⟩
  · rintro ⟨accepted, later⟩
    obtain ⟨admissible, distinct⟩ := (enrolled.append accepted).accepts_iff.mp later
    refine ⟨?_, distinct⟩
    intro key member
    rcases List.mem_append.mp member with inFirst | inSecond
    · exact (enrolled.accepts_iff.mp accepted).1 key inFirst
    · exact admissible key inSecond

theorem append_append (enrolled : tables.Enrolled members) {first : List PublicKey}
    (accepted : rejections tables [] 0 first = []) (second : List PublicKey) :
    tables.append tables.memberCount ((first ++ second).map PublicKey.bytes) =
      (tables.append tables.memberCount (first.map PublicKey.bytes)).append
        (tables.append tables.memberCount (first.map PublicKey.bytes)).memberCount
        (second.map PublicKey.bytes) := by
  rw [(enrolled.append accepted).represents.member_count, List.map_append,
    CensusTables.append_append, List.length_append, enrolled.represents.member_count]

end CensusTables.Enrolled

/-- Tables that represent the keys in their members table, which have the shape of members and are
distinct. -/
def CensusTables.Orderly (tables : CensusTables) : Prop := tables.Enrolled tables.memberKeys

theorem CensusTables.Enrolled.orderly {tables : CensusTables} {members : List Bytes}
    (enrolled : tables.Enrolled members) : tables.Orderly := by
  rw [Orderly, enrolled.represents.member_keys]
  exact enrolled

end CensusNode
