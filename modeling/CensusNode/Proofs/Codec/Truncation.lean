import CensusNode.Proofs.Codec.DataModel
import CensusNode.Proofs.Config.Forms

/-!
Truncated records. Of everything that has a binary form, records of the data model, configurations,
integers and texts, a cut of that form is refused for want of bytes, wherever it is cut: inside a
number, inside the bytes after a length, between a mark or a tag and what it announces, or before a
text that would only have been checked once it is complete.
-/

namespace CensusNode

theorem CensusId.codec_decides : CensusId.codec.Decides := Codec.word64_decides.map _ _

theorem CensusRoot.codec_decides : CensusRoot.codec.Decides := (Codec.block_decides 32).map _ _

theorem PublicKey.codec_decides : PublicKey.codec.Decides := Codec.bytes_decides.map _ _

theorem Rejection.codec_decides : Rejection.codec.Decides := by
  apply Codec.tagged_decides
  intro mark codec selected
  simp only [payloadCodec] at selected
  split at selected <;> cases selected
  · exact Codec.count_decides.map _ _
  · exact Codec.constant_decides _
  · exact Codec.constant_decides _
  · exact Codec.constant_decides _

theorem RejectedKey.codec_decides : RejectedKey.codec.Decides :=
  (Codec.count_decides.pair Rejection.codec_decides).map _ _

theorem CensusState.codec_decides : CensusState.codec.Decides := Codec.one_of_decides _

theorem StatusKind.codec_decides : StatusKind.codec.Decides := Codec.one_of_decides _

theorem StatusError.codec_decides : StatusError.codec.Decides :=
  (Codec.word16_decides.pair (Codec.word64_decides.option.pair Codec.word64_decides.option)).map _ _

namespace CensusStatus

theorem instant_codec_decides : instantCodec.Decides := Codec.text_decides.refine _ _

theorem codec_decides : codec.Decides :=
  (StatusKind.codec_decides.pair (Codec.text_decides.pair
    (StatusError.codec_decides.option.pair instant_codec_decides))).map _ _

end CensusStatus

theorem CensusInfo.codec_decides : CensusInfo.codec.Decides :=
  (CensusId.codec_decides.pair (CensusState.codec_decides.pair (CensusRoot.codec_decides.option.pair
    (CensusStatus.codec_decides.option.pair Codec.count_decides)))).map _ _

theorem ErrorCode.codec_decides : ErrorCode.codec.Decides := Codec.one_of_decides _

theorem StorageConfig.codec_decides : StorageConfig.codec.Decides :=
  (Codec.text_decides.pair Codec.text_decides).map _ _

namespace LedgerConfig

theorem duration_codec_decides : durationCodec.Decides := Codec.text_decides.refine _ _

theorem codec_decides : codec.Decides :=
  (Codec.text_decides.pair (duration_codec_decides.pair
    (Codec.count_decides.pair Codec.count_decides))).map _ _

end LedgerConfig

theorem NodeConfig.codec_decides : NodeConfig.codec.Decides :=
  (Codec.text_decides.pair (StorageConfig.codec_decides.pair LedgerConfig.codec_decides)).map _ _

theorem RecordKind.codec_decides (kind : RecordKind) : kind.codec.Decides := by
  cases kind with
  | censusId => exact CensusId.codec_decides
  | root => exact CensusRoot.codec_decides
  | optionalRoot => exact CensusRoot.codec_decides.option
  | publicKey => exact PublicKey.codec_decides
  | rejection => exact Rejection.codec_decides
  | rejectedKey => exact RejectedKey.codec_decides
  | state => exact CensusState.codec_decides
  | statusKind => exact StatusKind.codec_decides
  | statusError => exact StatusError.codec_decides
  | status => exact CensusStatus.codec_decides
  | info => exact CensusInfo.codec_decides
  | errorCode => exact ErrorCode.codec_decides
  | cursor => exact PageCursor.codec_decides

/-- A type of values with a binary form. Counts are numbers of the width of positions. -/
inductive FormKind where
  | record (kind : RecordKind)
  | storageConfig
  | ledgerConfig
  | nodeConfig
  | byte
  | word16
  | word64
  | signed64
  | number (width : Varint.Width)
  | text

namespace FormKind

abbrev Value : FormKind → Type
  | .record kind => kind.Value
  | .storageConfig => StorageConfig
  | .ledgerConfig => LedgerConfig
  | .nodeConfig => NodeConfig
  | .byte => UInt8
  | .word16 => UInt16
  | .word64 => UInt64
  | .signed64 => Int64
  | .number _ => Nat
  | .text => String

def codec : (kind : FormKind) → Codec kind.Value
  | .record kind => kind.codec
  | .storageConfig => StorageConfig.codec
  | .ledgerConfig => LedgerConfig.codec
  | .nodeConfig => NodeConfig.codec
  | .byte => Codec.byte
  | .word16 => Codec.word16
  | .word64 => Codec.word64
  | .signed64 => Codec.signed64
  | .number width => Codec.number width
  | .text => Codec.text

def Fits : (kind : FormKind) → kind.Value → Prop
  | .record kind, value => kind.Fits value
  | .storageConfig, config => StorageConfig.Fits config
  | .ledgerConfig, config => LedgerConfig.Fits config
  | .nodeConfig, config => NodeConfig.Fits config
  | .number width, value => width.Sound ∧ value < width.capacity
  | .text, value => value.utf8ByteSize < 2 ^ 64
  | _, _ => True

theorem codec_restores (kind : FormKind) {value : kind.Value} (fits : kind.Fits value) :
    kind.codec.Restores value := by
  cases kind with
  | record kind => exact kind.codec_restores fits
  | storageConfig => exact StorageConfig.codec_restores fits
  | ledgerConfig => exact LedgerConfig.codec_restores fits
  | nodeConfig => exact NodeConfig.codec_restores fits
  | byte => exact Codec.byte_restores value
  | word16 => exact Codec.word16_restores value
  | word64 => exact Codec.word64_restores value
  | signed64 => exact Codec.signed64_restores value
  | number width => exact Codec.number_restores fits.1 fits.2
  | text => exact Codec.text_restores fits

theorem codec_decides (kind : FormKind) : kind.codec.Decides := by
  cases kind with
  | record kind => exact kind.codec_decides
  | storageConfig => exact StorageConfig.codec_decides
  | ledgerConfig => exact LedgerConfig.codec_decides
  | nodeConfig => exact NodeConfig.codec_decides
  | byte => exact Codec.byte_decides
  | word16 => exact Codec.word16_decides
  | word64 => exact Codec.word64_decides
  | signed64 => exact Codec.signed64_decides
  | number width => exact Codec.number_decides width
  | text => exact Codec.text_decides

end FormKind

/-- A value is read from its whole form, and every proper prefix of the form is refused because it
ends too early: for no other reason, and never taken for another value. -/
theorem cut_forms_end_too_early (kind : FormKind) (value : kind.Value) (fits : kind.Fits value) :
    kind.codec.decodeValue (kind.codec.encode value) = .ok value ∧
      ∀ cut, cut <+: kind.codec.encode value → cut ≠ kind.codec.encode value →
        kind.codec.decodeValue cut = .error .endOfInput := by
  have restores := kind.codec_restores fits
  refine ⟨restores.decode_value, ?_⟩
  intro cut beginning proper
  obtain ⟨missing, whole⟩ := beginning
  apply kind.codec_decides.decode_value_cut restores whole
  rintro rfl
  rw [List.append_nil] at whole
  exact proper whole

theorem cut_extreme_config_ends_too_early :
    FormKind.nodeConfig.Fits extremeConfig ∧
      NodeConfig.codec.decodeValue ((NodeConfig.codec.encode extremeConfig).take 2) =
        .error .endOfInput ∧
      NodeConfig.codec.decodeValue (NodeConfig.codec.encode extremeConfig).dropLast =
        .error .endOfInput := by
  have fits : FormKind.nodeConfig.Fits extremeConfig :=
    ⟨by decide, ⟨by decide, by decide⟩, by decide, by decide, by decide⟩
  obtain ⟨-, cuts⟩ := cut_forms_end_too_early .nodeConfig extremeConfig fits
  refine ⟨fits, ?_, ?_⟩
  · exact cuts _ (List.take_prefix 2 _) (by decide +kernel)
  · exact cuts _ (List.dropLast_prefix _) (by decide +kernel)

end CensusNode
