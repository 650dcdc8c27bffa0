import CensusNode.Proofs.Codec.DataModel
import CensusNode.Proofs.Json.Restores
import CensusNode.Proofs.Text.Hex

/-!
The JSON forms of the data model. Every kind of record is read from each variant of the JSON that is
written for it: the members of its objects may come in any order and among strangers, at any depth.
Only a rejection that is about a length is written as an object that stands for a choice. Counts have
to stay below `2 ^ 64`; byte strings and texts may be of any length.
-/

namespace CensusNode

variable {choices : List String}

theorem CensusId.format_tolerates (id : CensusId) : CensusId.format.Tolerates choices id :=
  (Format.word64_tolerates id.value).map rfl

theorem CensusRoot.parse_of_spells {root : CensusRoot} {text : String}
    (spells : Hex.Spells root.display text) : parse text = .ok root := by
  rw [parse, Hex.decode_marked_of_spells spells]
  simp only [ofBytes, bytes, Block.of_bytes_bytes]

theorem CensusRoot.parse_display (root : CensusRoot) : parse root.display = .ok root :=
  parse_of_spells (Hex.spells_self root.bytes)

theorem CensusRoot.format_tolerates (root : CensusRoot) :
    CensusRoot.format.Tolerates choices root := by
  apply Format.Tolerates.refine (Format.string_tolerates _)
  rw [parse_display]

theorem CensusRoot.option_format_tolerates (root : Option CensusRoot) :
    CensusRoot.format.option.Tolerates choices root := by
  apply Format.option_tolerates
  · exact fun present _ => CensusRoot.format_tolerates present
  · intro present isNull
    cases isNull

theorem PublicKey.format_tolerates (key : PublicKey) : PublicKey.format.Tolerates choices key := by
  apply Format.Tolerates.map _ rfl
  apply Format.list_tolerates
  exact fun byte _ => Format.byte_tolerates byte

def Rejection.payloadNames : List String := ["wrong_length"]

theorem Rejection.length_format_tolerates {length : Nat} (fits : length < 2 ^ 64) :
    lengthFormat.Tolerates choices (wrongLength length) := by
  apply Record.Tolerates.format
  · apply Record.Tolerates.map _ rfl
    exact Record.field_tolerates _ (Format.count_tolerates fits) _ _
  · exact List.nodup_singleton _

theorem Rejection.format_tolerates {reason : Rejection} (fits : reason.Fits) :
    Rejection.format.Tolerates payloadNames reason := by
  intro json varies
  cases reason with
  | wrongLength length =>
      have payload {other : Json} (alike : Json.Variant payloadNames
          (lengthFormat.write (wrongLength length)) other) :
          format.read (.object [("wrong_length", other)]) = .ok (wrongLength length) := by
        obtain ⟨members, isObject, -⟩ := Json.Variant.lookup alike (List.nodup_singleton _)
        have read := length_format_tolerates fits other alike
        rw [isObject] at read ⊢
        exact read
      cases varies with
      | same => exact payload (.same _)
      | choice isChoice alike => exact payload alike
      | record isRecord alike unknown order =>
          exact absurd List.mem_cons_self (isRecord _ _ rfl)
  | identityPoint =>
      cases varies
      rfl
  | duplicateInCensus =>
      cases varies
      rfl
  | duplicateInBatch =>
      cases varies
      rfl

theorem RejectedKey.format_tolerates {rejected : RejectedKey} (fits : rejected.Fits) :
    RejectedKey.format.Tolerates Rejection.payloadNames rejected := by
  apply Record.Tolerates.format
  · apply Record.Tolerates.map _ rfl
    apply Record.Tolerates.pair
    · exact Record.field_tolerates _ (Format.count_tolerates fits.index) _ _
    · exact Record.field_tolerates _ (Rejection.format_tolerates fits.reason) _ _
  · change ["index", "reason"].Nodup
    decide

theorem CensusState.format_tolerates (state : CensusState) :
    CensusState.format.Tolerates choices state := by
  apply Format.one_of_tolerates
  cases state <;> decide

theorem StatusKind.format_tolerates (kind : StatusKind) :
    StatusKind.format.Tolerates choices kind := by
  apply Format.one_of_tolerates
  cases kind <;> decide

theorem ErrorCode.format_tolerates (code : ErrorCode) : ErrorCode.format.Tolerates choices code := by
  apply Format.one_of_tolerates
  cases code <;> decide

theorem StatusError.format_tolerates (error : StatusError) :
    StatusError.format.Tolerates choices error := by
  have number (value : Option UInt64) : Format.word64.option.Tolerates choices value :=
    Format.option_tolerates (fun found _ => Format.word64_tolerates found) fun _ isNull => by
      cases isNull
  apply Record.Tolerates.format
  · apply Record.Tolerates.map _ rfl
    apply Record.Tolerates.pair
    · exact Record.field_tolerates _ (Format.word16_tolerates error.code) _ _
    apply Record.Tolerates.pair
    · exact Record.field_tolerates _ (number error.rejected) _ _
    · exact Record.field_tolerates _ (number error.firstIndex) _ _
  · change ["code", "rejected", "first_index"].Nodup
    decide

namespace CensusStatus

theorem instant_format_tolerates (instant : Instant) : instantFormat.Tolerates choices instant := by
  apply Format.Tolerates.refine (Format.string_tolerates _)
  rw [Timestamp.decode_encode]

theorem format_tolerates (status : CensusStatus) : CensusStatus.format.Tolerates choices status := by
  apply Record.Tolerates.format
  · apply Record.Tolerates.map _ rfl
    apply Record.Tolerates.pair
    · exact Record.field_tolerates _ (StatusKind.format_tolerates status.kind) _ _
    apply Record.Tolerates.pair
    · exact Record.field_tolerates _ (Format.string_tolerates status.message) _ _
    apply Record.Tolerates.pair
    · apply Record.field_tolerates
      apply Format.option_tolerates
      · exact fun error _ => StatusError.format_tolerates error
      · intro error isNull
        cases isNull
    · exact Record.field_tolerates _ (instant_format_tolerates status.updatedAt) _ _
  · change ["kind", "message", "error", "updated_at"].Nodup
    decide

end CensusStatus

theorem CensusInfo.format_tolerates {info : CensusInfo} (fits : info.members < 2 ^ 64) :
    CensusInfo.format.Tolerates choices info := by
  apply Record.Tolerates.format
  · apply Record.Tolerates.map _ rfl
    apply Record.Tolerates.pair
    · exact Record.field_tolerates _ (CensusId.format_tolerates info.id) _ _
    apply Record.Tolerates.pair
    · exact Record.field_tolerates _ (CensusState.format_tolerates info.state) _ _
    apply Record.Tolerates.pair
    · exact Record.field_tolerates _ (CensusRoot.option_format_tolerates info.root) _ _
    apply Record.Tolerates.pair
    · apply Record.field_tolerates
      apply Format.option_tolerates
      · exact fun status _ => CensusStatus.format_tolerates status
      · intro status isNull
        cases isNull
    · exact Record.field_tolerates _ (Format.count_tolerates fits) _ _
  · change ["census_id", "state", "root", "status", "members"].Nodup
    decide

namespace RecordKind

/-- The JSON form of the records of a kind. Cursors have none. -/
def format? : (kind : RecordKind) → Option (Format kind.Value)
  | .censusId => some CensusId.format
  | .root => some CensusRoot.format
  | .optionalRoot => some CensusRoot.format.option
  | .publicKey => some PublicKey.format
  | .rejection => some Rejection.format
  | .rejectedKey => some RejectedKey.format
  | .state => some CensusState.format
  | .statusKind => some StatusKind.format
  | .statusError => some StatusError.format
  | .status => some CensusStatus.format
  | .info => some CensusInfo.format
  | .errorCode => some ErrorCode.format
  | .cursor => none

def Counts : (kind : RecordKind) → kind.Value → Prop
  | .rejection, reason => Rejection.Fits reason
  | .rejectedKey, rejected => RejectedKey.Fits rejected
  | .info, summary => CensusInfo.members summary < 2 ^ 64
  | _, _ => True

theorem format_tolerates (kind : RecordKind) {format : Format kind.Value}
    (isFormat : kind.format? = some format) {value : kind.Value} (counts : kind.Counts value) :
    format.Tolerates Rejection.payloadNames value := by
  cases kind <;> cases isFormat
  case censusId => exact CensusId.format_tolerates value
  case root => exact CensusRoot.format_tolerates value
  case optionalRoot => exact CensusRoot.option_format_tolerates value
  case publicKey => exact PublicKey.format_tolerates value
  case rejection => exact Rejection.format_tolerates counts
  case rejectedKey => exact RejectedKey.format_tolerates counts
  case state => exact CensusState.format_tolerates value
  case statusKind => exact StatusKind.format_tolerates value
  case statusError => exact StatusError.format_tolerates value
  case status => exact CensusStatus.format_tolerates value
  case info => exact CensusInfo.format_tolerates counts
  case errorCode => exact ErrorCode.format_tolerates value

/-- A record is read from the JSON that is written for it, and from every variant of that. -/
theorem json_is_read_back (kind : RecordKind) {format : Format kind.Value}
    (isFormat : kind.format? = some format) {value : kind.Value} (counts : kind.Counts value) :
    format.read (format.write value) = .ok value ∧
      ∀ json, Json.Variant Rejection.payloadNames (format.write value) json →
        format.read json = .ok value := by
  have tolerates := kind.format_tolerates isFormat counts
  exact ⟨tolerates.restores, tolerates⟩

end RecordKind

def turnedError : Json :=
  .object [("hint", .array [.null]), ("first_index", .null),
    ("rejected", .integer 18446744073709551615), ("code", .integer 65535)]

def turnedStatus : Json :=
  .object [("retries", .integer 3), ("updated_at", CensusStatus.instantFormat.write ancientLeapSecond),
    ("error", turnedError), ("message", .string failedStatus.message), ("kind", .string "failed")]

def turnedInfo : Json :=
  .object [("version", .decimal "1.0"), ("members", .integer 18446744073709551615),
    ("status", turnedStatus), ("root", CensusRoot.format.write ⟨sha256 []⟩),
    ("state", .string "closed"), ("census_id", .integer 18446744073709551615)]

theorem turned_info_is_read_back :
    RecordKind.info.format? = some CensusInfo.format ∧ RecordKind.info.Counts fullInfo ∧
      Json.Variant Rejection.payloadNames (CensusInfo.format.write fullInfo) turnedInfo ∧
      CensusInfo.format.read turnedInfo = .ok fullInfo := by
  have error : Json.Variant Rejection.payloadNames
      (StatusError.format.write ⟨65535, some 18446744073709551615, none⟩) turnedError := by
    apply Json.Variant.turned _ (.refl _)
    · decide
    · decide
  have status : Json.Variant Rejection.payloadNames (CensusStatus.format.write failedStatus)
      turnedStatus := by
    apply Json.Variant.turned _ (.cons (.same _) (.cons (.same _) (.cons error (.refl _))))
    · change "retries" ∉ ["kind", "message", "error", "updated_at"]
      decide
    · decide
  have info : Json.Variant Rejection.payloadNames (CensusInfo.format.write fullInfo) turnedInfo := by
    apply Json.Variant.turned _
      (.cons (.same _) (.cons (.same _) (.cons (.same _) (.cons status (.refl _)))))
    · change "version" ∉ ["census_id", "state", "root", "status", "members"]
      decide
    · decide
  have counts : RecordKind.info.Counts fullInfo := by
    change fullInfo.members < 2 ^ 64
    decide
  exact ⟨rfl, counts, info, (RecordKind.info.json_is_read_back rfl counts).2 turnedInfo info⟩

end CensusNode
