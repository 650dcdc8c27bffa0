import CensusNode.Proofs.Census.Enrolment
import CensusNode.Proofs.Census.Persistence
import CensusNode.Proofs.Merkle.Tree

/-!
The life of one census store, from empty tables through any operations. The members are the
admitted batches one after another, and everything a census reports about its members follows from
them: the two tables, the count, the root and the summary, whether the census is open or closed.
-/

namespace CensusNode

/-- A status with a message no longer than a text in memory. -/
structure StatusEntry where
  status : CensusStatus
  message_fits : status.message.utf8ByteSize < 2 ^ 63

inductive CensusOperation where
  | reopen
  | addKeys (batch : List PublicKey)
  | setStatus (entry : StatusEntry)
  | close
  | read

/-- An identity set with the batches that it has admitted so far. -/
structure CensusHistory where
  set : IdentitySet
  admitted : List (List Bytes)

namespace IdentitySet

structure Shows (set : IdentitySet) (keys : List Bytes) : Prop where
  /-- The members table has exactly the indices below the number of members. -/
  indices : set.tables.members.map Prod.fst = List.range keys.length
  /-- Its keys by ascending index are the members in order. -/
  member_keys : set.tables.memberKeys = keys
  /-- The look-up table is the inverse of the members table. -/
  lookup_iff : ∀ key index,
    set.tables.lookup.lookup key = some index ↔ (index, key) ∈ set.tables.members
  admissible : ∀ key ∈ keys, Admissible key
  distinct : keys.Nodup
  member_count : set.memberCount = keys.length
  /-- The root is the Merkle root over the digests of the members in order. -/
  root_iff : ∀ root, set.root = .ok root ↔ rootOfLeaves (keys.map sha256) = some root
  root_empty : set.root = .error .emptyCensus ↔ keys = []
  /-- The summary agrees with state, root and count. -/
  info : ∀ id, ∃ root status, set.info id = .ok ⟨id, set.state, root, status, set.memberCount⟩ ∧
    (∀ found, root = some found ↔ set.root = .ok found) ∧ (root = none ↔ keys = [])

/-- The invariant of a census store: its tables represent the members, which have the shape of
members and are distinct; memory agrees with the tables; a seal is that of the members; and the
last status written can be read. -/
structure Holds (set : IdentitySet) (keys : List Bytes) : Prop where
  represents : set.tables.Represents keys
  admissible : ∀ key ∈ keys, Admissible key
  distinct : keys.Nodup
  persisted : set.Persisted
  sealed_eq : ∀ sealed, set.sealed = some sealed →
    sealed = ⟨rootOfLeaves (keys.map leaf), keys.length⟩
  status_readable : ∃ status, set.status = .ok status

theorem holds_empty : Holds ⟨CensusTables.empty, none⟩ [] where
  represents := CensusTables.represents_empty
  admissible := by simp
  distinct := List.nodup_nil
  persisted := load_empty
  sealed_eq := by simp
  status_readable := ⟨none, rfl⟩

theorem Holds.enrolled {set : IdentitySet} {keys : List Bytes} (holds : set.Holds keys) :
    set.tables.Enrolled keys :=
  ⟨holds.represents, holds.admissible, holds.distinct⟩

/-- A batch with refused keys changes nothing, and any other is admitted as a whole. -/
theorem Holds.add_keys {set after : IdentitySet} {keys : List Bytes} {batch : List PublicKey}
    {refused : List RejectedKey} (holds : set.Holds keys)
    (added : set.addKeys batch = .ok (refused, after)) :
    after.Holds (keys ++ if refused = [] then batch.map PublicKey.bytes else []) := by
  have persisted := holds.persisted.add_keys added
  obtain ⟨unsealed, reasons, ⟨some_refused, unchanged⟩ | ⟨none_refused, grown⟩⟩ :=
    add_keys_cases added
  · rw [if_neg some_refused, List.append_nil, unchanged]
    exact holds
  · rw [none_refused, eq_comm] at reasons
    have enrolled := holds.enrolled.append reasons
    rw [if_pos none_refused]
    constructor
    · rw [grown]
      exact enrolled.represents
    · exact enrolled.admissible
    · exact enrolled.distinct
    · exact persisted
    · intro sealed isSealed
      rw [grown, unsealed] at isSealed
      cases isSealed
    · obtain ⟨status, readable⟩ := holds.status_readable
      refine ⟨status, ?_⟩
      rw [grown, CensusTables.append_eq]
      exact readable

theorem Holds.set_status {set : IdentitySet} {keys : List Bytes} (holds : set.Holds keys)
    (entry : StatusEntry) : (set.setStatus entry.status).Holds keys where
  represents := ⟨holds.represents.members_eq, holds.represents.lookup_eq⟩
  admissible := holds.admissible
  distinct := holds.distinct
  persisted := holds.persisted.set_status entry.status
  sealed_eq := holds.sealed_eq
  status_readable := by
    have fits := entry.message_fits
    exact ⟨some entry.status, read_record_encode (CensusStatus.codec_restores (by omega))⟩

theorem Holds.close {set : IdentitySet} {keys : List Bytes} (holds : set.Holds keys) :
    set.close.Holds keys := by
  have persisted := holds.persisted.close
  cases set with
  | mk tables sealed =>
      cases sealed with
      | some sealed => exact holds
      | none =>
          constructor
          · exact ⟨holds.represents.members_eq, holds.represents.lookup_eq⟩
          · exact holds.admissible
          · exact holds.distinct
          · exact persisted
          · intro sealed isSealed
            rw [← Option.some.inj isSealed, liveRoot, holds.represents.member_keys,
              holds.represents.member_count]
          · exact holds.status_readable

/-- Live or sealed, the root that counts is that of the members. -/
theorem Holds.root_eq {set : IdentitySet} {keys : List Bytes} (holds : set.Holds keys) :
    set.root = match rootOfLeaves (keys.map leaf) with
      | some root => .ok root
      | none => .error .emptyCensus := by
  unfold root
  cases isSealed : set.sealed with
  | none =>
      cases found : rootOfLeaves (keys.map leaf) <;>
        simp only [liveRoot, holds.represents.member_keys, found]
  | some sealed =>
      cases found : rootOfLeaves (keys.map leaf) <;>
        simp only [holds.sealed_eq sealed isSealed, found]

theorem Holds.member_count {set : IdentitySet} {keys : List Bytes} (holds : set.Holds keys) :
    set.memberCount = keys.length := by
  unfold memberCount
  cases isSealed : set.sealed with
  | none => exact holds.represents.member_count
  | some sealed => rw [holds.sealed_eq sealed isSealed]

theorem root_of_leaves_eq_none_iff (keys : List Bytes) :
    rootOfLeaves (keys.map leaf) = none ↔ keys = [] := by
  rw [rootOfLeaves, Option.map_eq_none_iff, Merkle.root_eq_none_iff, List.map_eq_nil_iff]

theorem Holds.info {set : IdentitySet} {keys : List Bytes} (holds : set.Holds keys)
    (id : CensusId) :
    ∃ status, set.info id =
      .ok ⟨id, set.state, rootOfLeaves (keys.map leaf), status, set.memberCount⟩ := by
  obtain ⟨status, readable⟩ := holds.status_readable
  refine ⟨status, ?_⟩
  unfold IdentitySet.info
  rw [holds.root_eq]
  cases rootOfLeaves (keys.map leaf) with
  | some root => simp only [readable]
  | none => simp only [readable]

theorem Holds.shows {set : IdentitySet} {keys : List Bytes} (holds : set.Holds keys) :
    set.Shows keys where
  indices := holds.represents.indices
  member_keys := holds.represents.member_keys
  lookup_iff := holds.represents.lookup_iff holds.distinct
  admissible := holds.admissible
  distinct := holds.distinct
  member_count := holds.member_count
  root_iff root := by
    rw [holds.root_eq]
    change _ ↔ rootOfLeaves (keys.map leaf) = some root
    cases rootOfLeaves (keys.map leaf) <;> simp
  root_empty := by
    rw [holds.root_eq, ← root_of_leaves_eq_none_iff]
    cases rootOfLeaves (keys.map leaf) <;> simp
  info id := by
    obtain ⟨status, summary⟩ := holds.info id
    refine ⟨_, status, summary, ?_, root_of_leaves_eq_none_iff keys⟩
    intro found
    rw [holds.root_eq]
    cases rootOfLeaves (keys.map leaf) <;> simp

end IdentitySet

namespace CensusHistory

def start : Except IdentityError CensusHistory :=
  (IdentitySet.load CensusTables.empty).map fun set => ⟨set, []⟩

/-- One operation. Reopening drops what is held in memory; a batch that is refused because the
census is closed, or some of whose keys are refused, is not admitted. -/
def step (history : CensusHistory) : CensusOperation → Except IdentityError CensusHistory
  | .reopen => (IdentitySet.load history.set.tables).map fun set => { history with set }
  | .addKeys batch =>
      match history.set.addKeys batch with
      | .ok ([], set) => .ok ⟨set, history.admitted ++ [batch.map PublicKey.bytes]⟩
      | .ok (_ :: _, set) => .ok { history with set }
      | .error _ => .ok history
  | .setStatus entry => .ok { history with set := history.set.setStatus entry.status }
  | .close => .ok { history with set := history.set.close }
  | .read => .ok history

def after (operations : List CensusOperation) : Except IdentityError CensusHistory := do
  operations.foldlM step (← start)

def Sound (history : CensusHistory) : Prop := history.set.Holds history.admitted.flatten

/-- No operation fails, and every operation keeps the tables in step with the admitted batches. -/
theorem step_sound {history : CensusHistory} (sound : history.Sound)
    (operation : CensusOperation) : ∃ later, history.step operation = .ok later ∧ later.Sound := by
  cases operation with
  | reopen =>
      refine ⟨history, ?_, sound⟩
      rw [step, sound.persisted]
      rfl
  | addKeys batch =>
      simp only [step]
      cases added : history.set.addKeys batch with
      | error error => exact ⟨history, rfl, sound⟩
      | ok outcome =>
          obtain ⟨refused, set⟩ := outcome
          have holds := sound.add_keys added
          cases refused with
          | nil =>
              refine ⟨_, rfl, ?_⟩
              rw [if_pos rfl] at holds
              simp only [Sound, List.flatten_append, List.flatten_singleton]
              exact holds
          | cons first rest =>
              refine ⟨_, rfl, ?_⟩
              rw [if_neg (by simp), List.append_nil] at holds
              exact holds
  | setStatus entry => exact ⟨_, rfl, sound.set_status entry⟩
  | close => exact ⟨_, rfl, sound.close⟩
  | read => exact ⟨history, rfl, sound⟩

theorem steps_sound {history : CensusHistory} (sound : history.Sound)
    (operations : List CensusOperation) :
    ∃ later, operations.foldlM step history = .ok later ∧ later.Sound := by
  induction operations generalizing history with
  | nil => exact ⟨history, rfl, sound⟩
  | cons operation rest induction =>
      obtain ⟨next, stepped, nextSound⟩ := step_sound sound operation
      obtain ⟨later, finished, laterSound⟩ := induction nextSound
      refine ⟨later, ?_, laterSound⟩
      rw [List.foldlM_cons, stepped]
      exact finished

theorem after_sound (operations : List CensusOperation) :
    ∃ history, after operations = .ok history ∧ history.Sound := by
  have startSound : Sound ⟨⟨CensusTables.empty, none⟩, []⟩ := IdentitySet.holds_empty
  exact steps_sound startSound operations

/-- Whatever is done with a census store, opening it again included, nothing fails to open, and the
set shows the admitted batches one after another as its members. -/
theorem tables_represent_admitted_batches (operations : List CensusOperation) :
    ∃ history, after operations = .ok history ∧ history.set.Shows history.admitted.flatten := by
  obtain ⟨history, finished, sound⟩ := after_sound operations
  exact ⟨history, finished, sound.shows⟩

end CensusHistory

end CensusNode
