import CensusNode.Census.PublicKey
import CensusNode.Census.Status
import CensusNode.Census.Tables

/-!
The identity set of a census: its tables and, once it is closed, the sealed root and member
count. A batch of keys becomes members as a whole or not at all. The root is the Merkle root over
the digests of the members by ascending index. Closing seals root and count; the status stays
writable.
-/

namespace CensusNode

inductive IdentityError where
  | codec (fault : DecodeFault)
  | closed
  | emptyCensus
deriving DecidableEq, Repr

namespace IdentityError

def message : IdentityError → String
  | .codec fault => "Codec error: Decoding failed: " ++ fault.message
  | .closed => "Census is closed"
  | .emptyCensus => "Census has no members, root is undefined"

def code : IdentityError → ErrorCode
  | .codec _ => .serialization
  | .closed => .censusClosed
  | .emptyCensus => .computeFault

end IdentityError

structure Sealed where
  root : Option CensusRoot
  members : Nat
deriving DecidableEq

/-- An open identity set, with its seal when the census is closed. -/
structure IdentitySet where
  tables : CensusTables
  sealed : Option Sealed
deriving DecidableEq

namespace IdentitySet

def leaf (key : Bytes) : Digest := sha256 key

def rootOfLeaves (leaves : List Digest) : Option CensusRoot :=
  (Merkle.root? leaves).map CensusRoot.mk

def liveRoot (tables : CensusTables) : Option CensusRoot :=
  rootOfLeaves (tables.memberKeys.map leaf)

def readRecord {α : Type} (codec : Codec α) (record : Option Bytes) :
    Except IdentityError (Option α) :=
  match record with
  | none => .ok none
  | some bytes =>
      match codec.decodeValue bytes with
      | .ok value => .ok (some value)
      | .error fault => .error (.codec fault)

def loadSealed (tables : CensusTables) : Except IdentityError Sealed :=
  match readRecord (Codec.option CensusRoot.codec) tables.root with
  | .ok root => .ok ⟨root.join, tables.memberCount⟩
  | .error error => .error error

def load (tables : CensusTables) : Except IdentityError IdentitySet :=
  match readRecord CensusState.codec tables.state with
  | .error error => .error error
  | .ok (some .closed) =>
      match loadSealed tables with
      | .ok sealed => .ok ⟨tables, some sealed⟩
      | .error error => .error error
  | .ok _ => .ok ⟨tables, none⟩

def isMember (tables : CensusTables) (key : Bytes) : Bool := (tables.lookup.lookup key).isSome

/-- Why a key is refused, after the given keys of its batch. -/
def rejection? (tables : CensusTables) (seen : List Bytes) (key : PublicKey) : Option Rejection :=
  if key.bytes.length ≠ PublicKey.memberLength then some (.wrongLength key.bytes.length)
  else if key.bytes.all (· = 0) then some .identityPoint
  else if seen.contains key.bytes then some .duplicateInBatch
  else if isMember tables key.bytes then some .duplicateInCensus
  else none

/-- The refused keys of a batch, whose positions count from `index`. -/
def rejections (tables : CensusTables) (seen : List Bytes) (index : Nat) :
    List PublicKey → List RejectedKey
  | [] => []
  | key :: rest =>
      let others := rejections tables (key.bytes :: seen) (index + 1) rest
      match rejection? tables seen key with
      | some reason => ⟨index, reason⟩ :: others
      | none => others

/-- The outcome of a batch: the refused keys, and the set afterwards. Without refused keys the
whole batch becomes members, from the index that is the number of members on. -/
def addKeys (set : IdentitySet) (keys : List PublicKey) :
    Except IdentityError (List RejectedKey × IdentitySet) :=
  match set.sealed with
  | some _ => .error .closed
  | none =>
      match rejections set.tables [] 0 keys with
      | [] =>
          let tables := set.tables.append set.tables.memberCount (keys.map PublicKey.bytes)
          .ok ([], { set with tables })
      | refused => .ok (refused, set)

def root (set : IdentitySet) : Except IdentityError CensusRoot :=
  let current := match set.sealed with
    | some sealed => sealed.root
    | none => liveRoot set.tables
  match current with
  | some root => .ok root
  | none => .error .emptyCensus

def setStatus (set : IdentitySet) (status : CensusStatus) : IdentitySet :=
  { set with tables := { set.tables with status := some (CensusStatus.codec.encode status) } }

def status (set : IdentitySet) : Except IdentityError (Option CensusStatus) :=
  readRecord CensusStatus.codec set.tables.status

/-- The set with its root and member count sealed. A closed set stays as it is. -/
def close (set : IdentitySet) : IdentitySet :=
  match set.sealed with
  | some _ => set
  | none =>
      let root := liveRoot set.tables
      { tables :=
          { set.tables with
            state := some (CensusState.codec.encode .closed)
            root := some ((Codec.option CensusRoot.codec).encode root) }
        sealed := some ⟨root, set.tables.memberCount⟩ }

def state (set : IdentitySet) : CensusState :=
  match set.sealed with
  | some _ => .closed
  | none => .opened

def memberCount (set : IdentitySet) : Nat :=
  match set.sealed with
  | some sealed => sealed.members
  | none => set.tables.memberCount

def info (id : CensusId) (set : IdentitySet) : Except IdentityError CensusInfo :=
  let summary (root : Option CensusRoot) : Except IdentityError CensusInfo :=
    match set.status with
    | .ok status => .ok ⟨id, set.state, root, status, set.memberCount⟩
    | .error error => .error error
  match set.root with
  | .ok root => summary (some root)
  | .error .emptyCensus => summary none
  | .error error => .error error

end IdentitySet

end CensusNode
