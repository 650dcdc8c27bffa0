import CensusNode.Census.IdentitySet
import CensusNode.Proofs.Census.Admission
import CensusNode.Proofs.Census.Records

/-!
What a set holds in memory is what its tables say. A persisted set is the one its own tables load
as; loading gives persisted sets, and every operation on a set keeps it persisted.
-/

namespace CensusNode.IdentitySet

/-- The set is the one that its tables load as. -/
def Persisted (set : IdentitySet) : Prop := load set.tables = .ok set

theorem load_tables {tables : CensusTables} {set : IdentitySet} (loaded : load tables = .ok set) :
    set.tables = tables := by
  unfold load at loaded
  split at loaded
  · cases loaded
  · split at loaded
    · cases loaded
      rfl
    · cases loaded
  · cases loaded
    rfl

theorem load_empty : load CensusTables.empty = .ok ⟨CensusTables.empty, none⟩ := rfl

theorem read_record_encode {α : Type} {codec : Codec α} {value : α}
    (restores : codec.Restores value) :
    readRecord codec (some (codec.encode value)) = .ok (some value) := by
  simp only [readRecord, restores.decode_value]

theorem persisted_open_iff (tables : CensusTables) :
    Persisted ⟨tables, none⟩ ↔
      ∃ state, readRecord CensusState.codec tables.state = .ok state ∧ state ≠ some .closed := by
  simp only [Persisted, load]
  split
  · rename_i unreadable
    rw [unreadable]
    simp
  · rename_i closed
    rw [closed]
    split <;> simp
  · rename_i state notClosed found
    rw [found]
    simp only [true_iff]
    exact ⟨state, rfl, notClosed⟩

theorem persisted_closed_iff (tables : CensusTables) (sealed : Sealed) :
    Persisted ⟨tables, some sealed⟩ ↔
      readRecord CensusState.codec tables.state = .ok (some .closed) ∧
        loadSealed tables = .ok sealed := by
  simp only [Persisted, load]
  split
  · rename_i unreadable
    rw [unreadable]
    simp
  · rename_i closed
    rw [closed]
    split
    · rename_i found
      rw [found]
      simp
    · rename_i unreadable
      rw [unreadable]
      simp
  · rename_i state notClosed found
    rw [found]
    constructor
    · intro same
      cases same
    · rintro ⟨closed, -⟩
      exact absurd (Except.ok.inj closed) notClosed

theorem Persisted.add_keys {set after : IdentitySet} {batch : List PublicKey}
    {refused : List RejectedKey} (persisted : set.Persisted)
    (added : set.addKeys batch = .ok (refused, after)) : after.Persisted := by
  obtain ⟨unsealed, -, ⟨-, unchanged⟩ | ⟨-, grown⟩⟩ := add_keys_cases added
  · rwa [unchanged]
  · cases set with
    | mk tables sealed =>
        cases unsealed
        rw [persisted_open_iff] at persisted
        rw [grown, persisted_open_iff, CensusTables.append_eq]
        exact persisted

theorem Persisted.set_status {set : IdentitySet} (persisted : set.Persisted)
    (status : CensusStatus) : (set.setStatus status).Persisted := by
  cases set with
  | mk tables sealed =>
      cases sealed with
      | none =>
          rw [persisted_open_iff] at persisted
          exact (persisted_open_iff _).mpr persisted
      | some sealed =>
          rw [persisted_closed_iff] at persisted
          exact (persisted_closed_iff _ _).mpr persisted

theorem load_sealed_close (tables : CensusTables) (state : Option Bytes) :
    loadSealed
        { tables with
          state
          root := some ((Codec.option CensusRoot.codec).encode (liveRoot tables)) } =
      .ok ⟨liveRoot tables, tables.memberCount⟩ := by
  simp only [loadSealed, read_record_encode (CensusRoot.option_codec_restores (liveRoot tables))]
  rfl

theorem Persisted.close {set : IdentitySet} (persisted : set.Persisted) :
    set.close.Persisted := by
  cases set with
  | mk tables sealed =>
      cases sealed with
      | some sealed => exact persisted
      | none =>
          apply (persisted_closed_iff _ _).mpr
          constructor
          · exact read_record_encode (CensusState.codec_restores .closed)
          · exact load_sealed_close tables _

theorem status_set_status (set : IdentitySet) {status : CensusStatus}
    (fits : status.message.utf8ByteSize < 2 ^ 64) :
    (set.setStatus status).status = .ok (some status) :=
  read_record_encode (CensusStatus.codec_restores fits)

theorem close_of_sealed {set : IdentitySet} {sealed : Sealed} (isSealed : set.sealed = some sealed) :
    set.close = set := by
  rw [close, isSealed]

theorem close_root (set : IdentitySet) : set.close.root = set.root := by
  cases isSealed : set.sealed with
  | some sealed => rw [close_of_sealed isSealed]
  | none => simp only [close, isSealed, root]

end CensusNode.IdentitySet
