import CensusNode.Census.Counter
import CensusNode.Census.Status
import CensusNode.Proofs.Codec.Restores
import CensusNode.Proofs.Time.Timestamp

/-!
What census stores record is read back: the state of a census, its root or the lack of one, the
last status written, whatever its instant, and the counter that numbers censuses.
-/

namespace CensusNode

theorem CensusState.codec_restores (state : CensusState) : CensusState.codec.Restores state := by
  apply Codec.one_of_restores (by decide)
  cases state <;> decide

theorem CensusRoot.codec_restores (root : CensusRoot) : CensusRoot.codec.Restores root :=
  (Codec.block_restores root.digest).map rfl

theorem CensusRoot.option_codec_restores (root : Option CensusRoot) :
    (Codec.option CensusRoot.codec).Restores root :=
  Codec.option_restores fun present _ => CensusRoot.codec_restores present

theorem StatusKind.codec_restores (kind : StatusKind) : StatusKind.codec.Restores kind := by
  apply Codec.one_of_restores (by decide)
  cases kind <;> decide

theorem StatusError.codec_restores (error : StatusError) : StatusError.codec.Restores error := by
  refine Codec.Restores.map (Codec.Restores.pair ?_ (Codec.Restores.pair ?_ ?_)) rfl
  · exact Codec.word16_restores error.code
  · exact Codec.option_restores fun present _ => Codec.word64_restores present
  · exact Codec.option_restores fun present _ => Codec.word64_restores present

namespace CensusStatus

theorem instant_codec_restores (instant : Instant) : instantCodec.Restores instant := by
  apply Codec.Restores.refine
  · exact Codec.text_restores (Timestamp.encode_utf8_byte_size_lt instant)
  · rw [Timestamp.decode_encode]

theorem codec_restores {status : CensusStatus} (fits : status.message.utf8ByteSize < 2 ^ 64) :
    CensusStatus.codec.Restores status := by
  refine Codec.Restores.map
    (Codec.Restores.pair ?_ (Codec.Restores.pair ?_ (Codec.Restores.pair ?_ ?_))) rfl
  · exact StatusKind.codec_restores status.kind
  · exact Codec.text_restores fits
  · exact Codec.option_restores fun error _ => StatusError.codec_restores error
  · exact instant_codec_restores status.updatedAt

end CensusStatus

theorem of_little_endian_little_endian (count number : Nat) (fits : number < 256 ^ count) :
    ofLittleEndian (littleEndian count number) = number := by
  induction count generalizing number with
  | zero => simp_all [littleEndian, ofLittleEndian]
  | succ count induction =>
      have smaller : number / 256 < 256 ^ count := by
        rw [Nat.pow_succ] at fits
        exact Nat.div_lt_of_lt_mul (by omega)
      simp only [littleEndian, ofLittleEndian, induction _ smaller, UInt8.toNat_ofNat']
      omega

namespace Counter

theorem read_write (next : CensusId) (store : Store) :
    read (tableOf (write next store)) = .ok next := by
  have length : (encode next).length = 8 := little_endian_length 8 _
  have number : ofLittleEndian (encode next) = next.value.toNat :=
    of_little_endian_little_endian 8 _ next.value.toNat_lt
  simp only [write, tableOf, Option.getD_some, read, decode, length,
    if_true, number, UInt64.ofNat_toNat]

/-- What a counter shows to somebody who may create it is what it shows to somebody who may not. -/
theorem read_eq_ok_iff {store : Store} {next : CensusId} :
    read (tableOf store) = .ok next ↔ peek store = .ok next := by
  rw [tableOf, peek]
  cases store.control with
  | some table => exact Iff.rfl
  | none =>
      constructor
      · intro readable
        cases readable
      · intro peeked
        cases peeked

/-- Seeding leaves a counter that can be read, and one that could be read as it was. -/
theorem seed_spec {store seeded : Store} {next : CensusId}
    (seeding : seed store = .ok (next, seeded)) :
    read (tableOf seeded) = .ok next := by
  unfold seed at seeding
  split at seeding
  · rename_i found readable
    cases seeding
    exact readable
  · cases seeding
    exact read_write ⟨0⟩ store
  · cases seeding

theorem seed_of_readable {store : Store} {next : CensusId}
    (readable : read (tableOf store) = .ok next) :
    seed store = .ok (next, store) := by
  rw [seed, readable]

end Counter

end CensusNode
