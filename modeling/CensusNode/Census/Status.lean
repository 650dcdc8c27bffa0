import CensusNode.Census.Id
import CensusNode.Census.Root
import CensusNode.ErrorCode
import CensusNode.Time.Timestamp

/-!
What is recorded about a census: whether it is open, the last status written, and the summary
that puts both beside its root and member count.
-/

namespace CensusNode

inductive CensusState where
  | opened
  | closed
deriving DecidableEq, Repr

namespace CensusState

def all : List CensusState := [.opened, .closed]

def name : CensusState → String
  | .opened => "open"
  | .closed => "closed"

def codec : Codec CensusState := Codec.oneOf all

def format : Format CensusState := Format.oneOf all name

end CensusState

inductive StatusKind where
  | pending
  | ready
  | failed
deriving DecidableEq, Repr

namespace StatusKind

def all : List StatusKind := [.pending, .ready, .failed]

def name : StatusKind → String
  | .pending => "pending"
  | .ready => "ready"
  | .failed => "failed"

def codec : Codec StatusKind := Codec.oneOf all

def format : Format StatusKind := Format.oneOf all name

end StatusKind

/-- The failure behind a status: the number of its class and, for a refused batch, how many keys
were refused and the position of the first. -/
structure StatusError where
  code : UInt16
  rejected : Option UInt64
  firstIndex : Option UInt64
deriving DecidableEq, Repr

namespace StatusError

def errorCode? (error : StatusError) : Option ErrorCode := ErrorCode.ofNumber? error.code

def codec : Codec StatusError :=
  (Codec.word16.pair ((Codec.option Codec.word64).pair (Codec.option Codec.word64))).map
    (fun parts => ⟨parts.1, parts.2.1, parts.2.2⟩)
    fun error => (error.code, error.rejected, error.firstIndex)

def format : Format StatusError :=
  (((Record.required "code" Format.word16).pair
    ((Record.optional "rejected" Format.word64).pair
      (Record.optional "first_index" Format.word64))).map
    (fun parts => ⟨parts.1, parts.2.1, parts.2.2⟩)
    fun error => (error.code, error.rejected, error.firstIndex)).format

end StatusError

structure CensusStatus where
  kind : StatusKind
  message : String
  error : Option StatusError
  updatedAt : Instant
deriving DecidableEq

namespace CensusStatus

def pending (message : String) (now : Instant) : CensusStatus := ⟨.pending, message, none, now⟩

def ready (message : String) (now : Instant) : CensusStatus := ⟨.ready, message, none, now⟩

def failed (code : ErrorCode) (message : String) (now : Instant) : CensusStatus :=
  ⟨.failed, message, some ⟨code.number, none, none⟩, now⟩

/-- The status with the details of a refused batch, when it is about a failure. -/
def withRejections (status : CensusStatus) (rejected firstIndex : UInt64) : CensusStatus :=
  { status with
    error := status.error.map fun error =>
      { error with rejected := some rejected, firstIndex := some firstIndex } }

def instantCodec : Codec Instant :=
  Codec.text.refine
    (fun text => match Timestamp.decode text with
      | .ok instant => .ok instant
      | .error _ => .error .badValue)
    Timestamp.encode

def instantFormat : Format Instant :=
  Format.string.refine
    (fun text => match Timestamp.decode text with
      | .ok instant => .ok instant
      | .error fault => .error (.text fault.message))
    Timestamp.encode

def codec : Codec CensusStatus :=
  (StatusKind.codec.pair (Codec.text.pair ((Codec.option StatusError.codec).pair instantCodec))).map
    (fun parts => ⟨parts.1, parts.2.1, parts.2.2.1, parts.2.2.2⟩)
    fun status => (status.kind, status.message, status.error, status.updatedAt)

def format : Format CensusStatus :=
  (((Record.required "kind" StatusKind.format).pair
    ((Record.required "message" Format.string).pair
      ((Record.optional "error" StatusError.format).pair
        (Record.required "updated_at" instantFormat)))).map
    (fun parts => ⟨parts.1, parts.2.1, parts.2.2.1, parts.2.2.2⟩)
    fun status => (status.kind, status.message, status.error, status.updatedAt)).format

end CensusStatus

structure CensusInfo where
  id : CensusId
  state : CensusState
  root : Option CensusRoot
  status : Option CensusStatus
  members : Nat
deriving DecidableEq

namespace CensusInfo

def codec : Codec CensusInfo :=
  (CensusId.codec.pair (CensusState.codec.pair ((Codec.option CensusRoot.codec).pair
    ((Codec.option CensusStatus.codec).pair Codec.count)))).map
    (fun parts => ⟨parts.1, parts.2.1, parts.2.2.1, parts.2.2.2.1, parts.2.2.2.2⟩)
    fun info => (info.id, info.state, info.root, info.status, info.members)

def format : Format CensusInfo :=
  (((Record.required "census_id" CensusId.format).pair
    ((Record.required "state" CensusState.format).pair
      ((Record.optional "root" CensusRoot.format).pair
        ((Record.optional "status" CensusStatus.format).pair
          (Record.required "members" Format.count))))).map
    (fun parts => ⟨parts.1, parts.2.1, parts.2.2.1, parts.2.2.2.1, parts.2.2.2.2⟩)
    fun info => (info.id, info.state, info.root, info.status, info.members)).format

end CensusInfo

end CensusNode
