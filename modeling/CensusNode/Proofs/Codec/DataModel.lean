import CensusNode.Census.PublicKey
import CensusNode.Proofs.Census.Persistence
import CensusNode.Proofs.Ledger.Cursor

/-!
The binary forms of the data model. Every kind of record is read back from its bytes, whatever comes
after them, when its numbers and lengths can be counted with 64 bits; instants are read back wherever
they lie, leap seconds included. So a census shows the status that was written last, and once it is
closed it is loaded with the root that was sealed.
-/

namespace CensusNode

def PublicKey.Fits (key : PublicKey) : Prop := key.bytes.length < 2 ^ 64

def Rejection.Fits (reason : Rejection) : Prop := reason.length < 2 ^ 64

structure RejectedKey.Fits (rejected : RejectedKey) : Prop where
  index : rejected.index < 2 ^ 64
  reason : rejected.reason.Fits

def CensusStatus.Fits (status : CensusStatus) : Prop := status.message.utf8ByteSize < 2 ^ 64

structure CensusInfo.Fits (info : CensusInfo) : Prop where
  status : ∀ status, info.status = some status → status.Fits
  members : info.members < 2 ^ 64

theorem CensusId.codec_restores (id : CensusId) : CensusId.codec.Restores id :=
  (Codec.word64_restores id.value).map rfl

theorem PublicKey.codec_restores {key : PublicKey} (fits : key.Fits) :
    PublicKey.codec.Restores key :=
  (Codec.bytes_restores fits).map rfl

theorem Rejection.tag_lt (reason : Rejection) : reason.tag < 2 ^ 32 := by
  cases reason <;> simp [tag]

theorem Rejection.codec_restores {reason : Rejection} (fits : reason.Fits) :
    Rejection.codec.Restores reason := by
  cases reason with
  | wrongLength length =>
      apply Codec.tagged_restores (tag_lt _) rfl
      exact (Codec.count_restores fits).map rfl
  | identityPoint => exact Codec.tagged_restores (tag_lt _) rfl (Codec.constant_restores _)
  | duplicateInCensus => exact Codec.tagged_restores (tag_lt _) rfl (Codec.constant_restores _)
  | duplicateInBatch => exact Codec.tagged_restores (tag_lt _) rfl (Codec.constant_restores _)

theorem RejectedKey.codec_restores {rejected : RejectedKey} (fits : rejected.Fits) :
    RejectedKey.codec.Restores rejected := by
  apply Codec.Restores.map _ rfl
  apply Codec.Restores.pair
  · exact Codec.count_restores fits.index
  · exact Rejection.codec_restores fits.reason

theorem ErrorCode.codec_restores (code : ErrorCode) : ErrorCode.codec.Restores code := by
  apply Codec.one_of_restores (by decide)
  cases code <;> decide

theorem CensusInfo.codec_restores {info : CensusInfo} (fits : info.Fits) :
    CensusInfo.codec.Restores info := by
  apply Codec.Restores.map _ rfl
  apply Codec.Restores.pair (CensusId.codec_restores info.id)
  apply Codec.Restores.pair (CensusState.codec_restores info.state)
  apply Codec.Restores.pair (CensusRoot.option_codec_restores info.root)
  apply Codec.Restores.pair
  · apply Codec.option_restores
    exact fun status present => CensusStatus.codec_restores (fits.status status present)
  · exact Codec.count_restores fits.members

inductive RecordKind where
  | censusId
  | root
  | optionalRoot
  | publicKey
  | rejection
  | rejectedKey
  | state
  | statusKind
  | statusError
  | status
  | info
  | errorCode
  | cursor

namespace RecordKind

abbrev Value : RecordKind → Type
  | .censusId => CensusId
  | .root => CensusRoot
  | .optionalRoot => Option CensusRoot
  | .publicKey => PublicKey
  | .rejection => Rejection
  | .rejectedKey => RejectedKey
  | .state => CensusState
  | .statusKind => StatusKind
  | .statusError => StatusError
  | .status => CensusStatus
  | .info => CensusInfo
  | .errorCode => ErrorCode
  | .cursor => PageCursor

def codec : (kind : RecordKind) → Codec kind.Value
  | .censusId => CensusId.codec
  | .root => CensusRoot.codec
  | .optionalRoot => Codec.option CensusRoot.codec
  | .publicKey => PublicKey.codec
  | .rejection => Rejection.codec
  | .rejectedKey => RejectedKey.codec
  | .state => CensusState.codec
  | .statusKind => StatusKind.codec
  | .statusError => StatusError.codec
  | .status => CensusStatus.codec
  | .info => CensusInfo.codec
  | .errorCode => ErrorCode.codec
  | .cursor => PageCursor.codec

/-- Whether the lengths and counts of a record stay below `2 ^ 64`. Records without any always do. -/
def Fits : (kind : RecordKind) → kind.Value → Prop
  | .publicKey, key => PublicKey.Fits key
  | .rejection, reason => Rejection.Fits reason
  | .rejectedKey, rejected => RejectedKey.Fits rejected
  | .status, record => CensusStatus.Fits record
  | .info, summary => CensusInfo.Fits summary
  | _, _ => True

theorem codec_restores (kind : RecordKind) {value : kind.Value} (fits : kind.Fits value) :
    kind.codec.Restores value := by
  cases kind with
  | censusId => exact CensusId.codec_restores value
  | root => exact CensusRoot.codec_restores value
  | optionalRoot => exact CensusRoot.option_codec_restores value
  | publicKey => exact PublicKey.codec_restores fits
  | rejection => exact Rejection.codec_restores fits
  | rejectedKey => exact RejectedKey.codec_restores fits
  | state => exact CensusState.codec_restores value
  | statusKind => exact StatusKind.codec_restores value
  | statusError => exact StatusError.codec_restores value
  | status => exact CensusStatus.codec_restores fits
  | info => exact CensusInfo.codec_restores fits
  | errorCode => exact ErrorCode.codec_restores value
  | cursor => exact PageCursor.codec_restores value

end RecordKind

/-- Closing writes down that a set is closed, and the root that it has. -/
structure IdentitySet.RecordsClosing (set : IdentitySet) : Prop where
  state : ∃ bytes, set.close.tables.state = some bytes ∧
    CensusState.codec.decodeValue bytes = .ok .closed
  root : ∃ bytes, set.close.tables.root = some bytes ∧
    (Codec.option CensusRoot.codec).decodeValue bytes = .ok (IdentitySet.liveRoot set.tables)

theorem IdentitySet.records_closing {set : IdentitySet} (isOpen : set.sealed = none) :
    set.RecordsClosing := by
  constructor
  · refine ⟨CensusState.codec.encode .closed, ?_, (CensusState.codec_restores .closed).decode_value⟩
    simp only [close, isOpen]
  · refine ⟨(Codec.option CensusRoot.codec).encode (liveRoot set.tables), ?_,
      (CensusRoot.option_codec_restores _).decode_value⟩
    simp only [close, isOpen]

/-- Every record is read back from its bytes and whatever follows them. Hence a status that was
written is the one that is read, and what a set of a census has in memory after a status was written
or the census was closed is what is loaded again: a sealed root is the root that the set had, and
it is written down as such. -/
theorem records_are_read_back :
    (∀ (kind : RecordKind) (value : kind.Value), kind.Fits value → ∀ rest,
      kind.codec.decodeValue (kind.codec.encode value ++ rest) = .ok value) ∧
    (∀ (set : IdentitySet) (status : CensusStatus), status.Fits →
      (set.setStatus status).status = .ok (some status)) ∧
    (∀ set : IdentitySet, set.Persisted →
      (∀ status, IdentitySet.load (set.setStatus status).tables = .ok (set.setStatus status)) ∧
        IdentitySet.load set.close.tables = .ok set.close ∧ set.close.root = set.root) ∧
    ∀ set : IdentitySet, set.sealed = none → set.RecordsClosing := by
  refine ⟨?_, ?_, ?_, ?_⟩
  · intro kind value fits rest
    exact (kind.codec_restores fits).decode_value_append rest
  · exact fun set status fits => set.status_set_status fits
  · intro set persisted
    exact ⟨persisted.set_status, persisted.close, set.close_root⟩
  · exact fun set isOpen => IdentitySet.records_closing isOpen

def ancientLeapSecond : Instant :=
  ⟨-62167219201, 1999999999, by decide, by decide, by decide, by decide⟩

def failedStatus : CensusStatus :=
  ⟨.failed, "Schlüssel abgelehnt", some ⟨65535, some 18446744073709551615, none⟩, ancientLeapSecond⟩

def fullInfo : CensusInfo :=
  ⟨⟨18446744073709551615⟩, .closed, some ⟨sha256 []⟩, some failedStatus, 18446744073709551615⟩

theorem full_info_is_read_back :
    RecordKind.info.Fits fullInfo ∧
      CensusInfo.codec.decodeValue (CensusInfo.codec.encode fullInfo ++ [0xff]) = .ok fullInfo ∧
      (IdentitySet.setStatus ⟨CensusTables.empty, none⟩ failedStatus).status =
        .ok (some failedStatus) ∧
      IdentitySet.Persisted ⟨CensusTables.empty, none⟩ ∧
      IdentitySet.load (IdentitySet.close ⟨CensusTables.empty, none⟩).tables =
        .ok (IdentitySet.close ⟨CensusTables.empty, none⟩) ∧
      IdentitySet.RecordsClosing ⟨CensusTables.empty, none⟩ := by
  have statusFits : failedStatus.Fits := by
    rw [CensusStatus.Fits]
    decide
  have fits : RecordKind.info.Fits fullInfo := by
    constructor
    · intro status present
      rwa [← Option.some.inj present]
    · decide
  have persisted : IdentitySet.Persisted ⟨CensusTables.empty, none⟩ := IdentitySet.load_empty
  obtain ⟨records, statuses, sets, closings⟩ := records_are_read_back
  refine ⟨fits, ?_, ?_, persisted, ?_, ?_⟩
  · exact records .info fullInfo fits [0xff]
  · exact statuses ⟨CensusTables.empty, none⟩ failedStatus statusFits
  · exact (sets _ persisted).2.1
  · exact closings _ rfl

end CensusNode
