import CensusNode.Codec.Basic
import CensusNode.Config.Error
import CensusNode.Json.Format
import CensusNode.Time.DurationText

/-!
Where the vote ledger lies, how long a writer waits for it, and how large its pages are.
-/

namespace CensusNode

structure LedgerConfig where
  fileName : String
  busyTimeout : Duration
  defaultPageSize : Nat
  maxPageSize : Nat
deriving DecidableEq, Repr

namespace LedgerConfig

def defaults : LedgerConfig :=
  ⟨"votes.sqlite", ⟨5, 0, by decide, Duration.zero.nanos_lt⟩, 100, 1000⟩

def validate (config : LedgerConfig) : Except ConfigError Unit :=
  if config.fileName = "" then .error .emptyFileName
  else if config.defaultPageSize = 0 then .error .zeroPageSize
  else if config.maxPageSize < config.defaultPageSize ∨ pageSizeLimit < config.maxPageSize then
    .error (.pageSizesOutOfRange config.defaultPageSize config.maxPageSize)
  else .ok ()

/-- The size of a page for a requested limit: none asks for the default, and no page is larger
than the maximum. -/
def clampPageSize (config : LedgerConfig) (limit : Nat) : Nat :=
  if limit = 0 then config.defaultPageSize else min limit config.maxPageSize

def durationCodec : Codec Duration :=
  Codec.text.refine
    (fun text => match DurationText.decode text with
      | .ok duration => .ok duration
      | .error .carry => .error .crashed
      | .error _ => .error .badValue)
    DurationText.encode

def durationFormat : Format Duration :=
  Format.string.refine
    (fun text => match DurationText.decode text with
      | .ok duration => .ok duration
      | .error .carry => .error .crashed
      | .error fault => .error (.text fault.message))
    DurationText.encode

def codec : Codec LedgerConfig :=
  (Codec.text.pair (durationCodec.pair (Codec.count.pair Codec.count))).map
    (fun parts => ⟨parts.1, parts.2.1, parts.2.2.1, parts.2.2.2⟩)
    fun config =>
      (config.fileName, config.busyTimeout, config.defaultPageSize, config.maxPageSize)

def format : Format LedgerConfig :=
  (((Record.withDefault "file_name" Format.string defaults.fileName).pair
    ((Record.withDefault "busy_timeout" durationFormat defaults.busyTimeout).pair
      ((Record.withDefault "default_page_size" Format.count defaults.defaultPageSize).pair
        (Record.withDefault "max_page_size" Format.count defaults.maxPageSize)))).map
    (fun parts => ⟨parts.1, parts.2.1, parts.2.2.1, parts.2.2.2⟩)
    fun config =>
      (config.fileName, config.busyTimeout, config.defaultPageSize, config.maxPageSize)).format

end LedgerConfig

end CensusNode
