import CensusNode.Config.Node
import CensusNode.Proofs.Codec.Restores
import CensusNode.Proofs.Json.Restores
import CensusNode.Proofs.Time.DurationText

/-!
Configurations are read back from both of their forms: from the JSON value that is written for them,
and from their bytes whatever comes after these. A busy timeout goes through its text in either form.
-/

namespace CensusNode

theorem LedgerConfig.duration_codec_restores (duration : Duration) :
    LedgerConfig.durationCodec.Restores duration := by
  apply Codec.Restores.refine
  · apply Codec.text_restores
    exact Nat.lt_of_le_of_lt (DurationText.encode_size_le duration) (by decide)
  · rw [DurationText.decode_encode]

theorem LedgerConfig.duration_format_tolerates (duration : Duration) :
    LedgerConfig.durationFormat.Tolerates [] duration := by
  apply Format.Tolerates.refine (Format.string_tolerates _)
  rw [DurationText.decode_encode]

structure StorageConfig.Fits (config : StorageConfig) : Prop where
  controlFile : config.controlFile.utf8ByteSize < 2 ^ 64
  censusDirectory : config.censusDirectory.utf8ByteSize < 2 ^ 64

structure LedgerConfig.Fits (config : LedgerConfig) : Prop where
  fileName : config.fileName.utf8ByteSize < 2 ^ 64
  defaultPageSize : config.defaultPageSize < 2 ^ 64
  maxPageSize : config.maxPageSize < 2 ^ 64

structure NodeConfig.Fits (config : NodeConfig) : Prop where
  dataDirectory : config.dataDirectory.utf8ByteSize < 2 ^ 64
  storage : config.storage.Fits
  ledger : config.ledger.Fits

theorem StorageConfig.codec_restores {config : StorageConfig} (fits : config.Fits) :
    StorageConfig.codec.Restores config := by
  apply Codec.Restores.map _ rfl
  apply Codec.Restores.pair
  · exact Codec.text_restores fits.controlFile
  · exact Codec.text_restores fits.censusDirectory

theorem LedgerConfig.codec_restores {config : LedgerConfig} (fits : config.Fits) :
    LedgerConfig.codec.Restores config := by
  apply Codec.Restores.map _ rfl
  apply Codec.Restores.pair (Codec.text_restores fits.fileName)
  apply Codec.Restores.pair
  · exact duration_codec_restores config.busyTimeout
  apply Codec.Restores.pair
  · exact Codec.count_restores fits.defaultPageSize
  · exact Codec.count_restores fits.maxPageSize

theorem NodeConfig.codec_restores {config : NodeConfig} (fits : config.Fits) :
    NodeConfig.codec.Restores config := by
  apply Codec.Restores.map _ rfl
  apply Codec.Restores.pair (Codec.text_restores fits.dataDirectory)
  apply Codec.Restores.pair
  · exact StorageConfig.codec_restores fits.storage
  · exact LedgerConfig.codec_restores fits.ledger

theorem StorageConfig.format_tolerates (config : StorageConfig) :
    StorageConfig.format.Tolerates [] config := by
  apply Record.Tolerates.format
  · apply Record.Tolerates.map _ rfl
    apply Record.Tolerates.pair
    · exact Record.field_tolerates _ (Format.string_tolerates _) _ _
    · exact Record.field_tolerates _ (Format.string_tolerates _) _ _
  · change ["control_db_file", "census_dir"].Nodup
    decide

theorem LedgerConfig.format_tolerates {config : LedgerConfig} (fits : config.Fits) :
    LedgerConfig.format.Tolerates [] config := by
  apply Record.Tolerates.format
  · apply Record.Tolerates.map _ rfl
    apply Record.Tolerates.pair (Record.field_tolerates _ (Format.string_tolerates _) _ _)
    apply Record.Tolerates.pair (Record.field_tolerates _ (duration_format_tolerates _) _ _)
    apply Record.Tolerates.pair
    · exact Record.field_tolerates _ (Format.count_tolerates fits.defaultPageSize) _ _
    · exact Record.field_tolerates _ (Format.count_tolerates fits.maxPageSize) _ _
  · change ["file_name", "busy_timeout", "default_page_size", "max_page_size"].Nodup
    decide

theorem NodeConfig.format_tolerates {config : NodeConfig} (fits : config.Fits) :
    NodeConfig.format.Tolerates [] config := by
  apply Record.Tolerates.format
  · apply Record.Tolerates.map _ rfl
    apply Record.Tolerates.pair (Record.field_tolerates _ (Format.string_tolerates _) _ _)
    apply Record.Tolerates.pair
    · exact Record.field_tolerates _ (StorageConfig.format_tolerates _) _ _
    · exact Record.field_tolerates _ (LedgerConfig.format_tolerates fits.ledger) _ _
  · change ["data_dir", "storage", "ledger"].Nodup
    decide

theorem StorageConfig.format_restores (config : StorageConfig) :
    StorageConfig.format.Restores config :=
  config.format_tolerates.restores

theorem LedgerConfig.format_restores {config : LedgerConfig} (fits : config.Fits) :
    LedgerConfig.format.Restores config :=
  (format_tolerates fits).restores

theorem NodeConfig.format_restores {config : NodeConfig} (fits : config.Fits) :
    NodeConfig.format.Restores config :=
  (format_tolerates fits).restores

/-- The value is read back from its JSON, and from its bytes and whatever follows them. -/
structure ReadBack {α : Type} (format : Format α) (codec : Codec α) (value : α) : Prop where
  json : format.read (format.write value) = .ok value
  bytes : ∀ rest, codec.decodeValue (codec.encode value ++ rest) = .ok value

theorem configurations_are_read_back :
    (∀ config : StorageConfig, config.Fits →
      ReadBack StorageConfig.format StorageConfig.codec config) ∧
    (∀ config : LedgerConfig, config.Fits →
      ReadBack LedgerConfig.format LedgerConfig.codec config) ∧
    (∀ config : NodeConfig, config.Fits → ReadBack NodeConfig.format NodeConfig.codec config) ∧
    ∀ duration, DurationText.decode (DurationText.encode duration) = .ok duration := by
  refine ⟨?_, ?_, ?_, DurationText.decode_encode⟩
  · intro config fits
    exact ⟨config.format_restores, (StorageConfig.codec_restores fits).decode_value_append⟩
  · intro config fits
    exact ⟨LedgerConfig.format_restores fits, (LedgerConfig.codec_restores fits).decode_value_append⟩
  · intro config fits
    exact ⟨NodeConfig.format_restores fits, (NodeConfig.codec_restores fits).decode_value_append⟩

def extremeConfig : NodeConfig :=
  ⟨"/srv/реєстр\"\n", ⟨"", "сховище/\x00"⟩,
    ⟨"голоси.sqlite", ⟨18446744073709551615, 999999999, by decide, by decide⟩,
      18446744073709551615, 18446744073709551615⟩⟩

theorem extreme_config_is_read_back :
    extremeConfig.Fits ∧ ReadBack NodeConfig.format NodeConfig.codec extremeConfig ∧
      ReadBack LedgerConfig.format LedgerConfig.codec extremeConfig.ledger ∧
      ReadBack StorageConfig.format StorageConfig.codec extremeConfig.storage := by
  have fits : extremeConfig.Fits :=
    ⟨by decide, ⟨by decide, by decide⟩, by decide, by decide, by decide⟩
  obtain ⟨storages, ledgers, nodes, -⟩ := configurations_are_read_back
  exact ⟨fits, nodes _ fits, ledgers _ fits.ledger, storages _ fits.storage⟩

end CensusNode
