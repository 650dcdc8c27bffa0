import CensusNode.Codec.Basic
import CensusNode.Json.Format
import CensusNode.Text.Decimal

/-!
Public keys of census members, and why a census refuses one. Keys are byte strings of any length;
only those of 32 bytes that are not all zero can become members.
-/

namespace CensusNode

structure PublicKey where
  bytes : Bytes
deriving DecidableEq, Repr

namespace PublicKey

def memberLength : Nat := 32

def codec : Codec PublicKey := Codec.bytes.map PublicKey.mk PublicKey.bytes

def format : Format PublicKey := Format.bytes.map PublicKey.mk PublicKey.bytes

end PublicKey

inductive Rejection where
  | wrongLength (length : Nat)
  | identityPoint
  | duplicateInCensus
  | duplicateInBatch
deriving DecidableEq, Repr

namespace Rejection

def message : Rejection → String
  | .wrongLength length =>
      "public key must be " ++ Decimal.encode PublicKey.memberLength ++ " bytes, got " ++
        Decimal.encode length
  | .identityPoint => "public key is the identity point"
  | .duplicateInCensus => "public key already in census"
  | .duplicateInBatch => "public key repeated in batch"

def tag : Rejection → Nat
  | .wrongLength _ => 0
  | .identityPoint => 1
  | .duplicateInCensus => 2
  | .duplicateInBatch => 3

/-- The length a rejection is about; zero when it is not about a length. -/
def length : Rejection → Nat
  | .wrongLength length => length
  | _ => 0

def payloadCodec : Nat → Option (Codec Rejection)
  | 0 => some (Codec.count.map wrongLength length)
  | 1 => some (Codec.constant identityPoint)
  | 2 => some (Codec.constant duplicateInCensus)
  | 3 => some (Codec.constant duplicateInBatch)
  | _ => none

def codec : Codec Rejection := Codec.tagged tag payloadCodec

def lengthFormat : Format Rejection :=
  ((Record.required "len" Format.count).map wrongLength length).format

def write : Rejection → Json
  | .wrongLength length => .object [("wrong_length", lengthFormat.write (.wrongLength length))]
  | .identityPoint => .string "identity_point"
  | .duplicateInCensus => .string "duplicate_in_census"
  | .duplicateInBatch => .string "duplicate_in_batch"

def readPayload (name : String) (payload : Option Json) : Except ReadFault Rejection :=
  if name = "wrong_length" then
    match payload with
    | some (.object members) => lengthFormat.read (.object members)
    | _ => .error .shape
  else if name = "identity_point" then Format.bare .identityPoint payload
  else if name = "duplicate_in_census" then Format.bare .duplicateInCensus payload
  else Format.bare .duplicateInBatch payload

/-- A rejection as its name, with a payload when it is for its length. -/
def format : Format Rejection :=
  Format.choice ["wrong_length", "identity_point", "duplicate_in_census", "duplicate_in_batch"]
    write readPayload

end Rejection

structure RejectedKey where
  index : Nat
  reason : Rejection
deriving DecidableEq, Repr

namespace RejectedKey

def codec : Codec RejectedKey :=
  (Codec.count.pair Rejection.codec).map (fun parts => ⟨parts.1, parts.2⟩)
    fun rejected => (rejected.index, rejected.reason)

def format : Format RejectedKey :=
  (((Record.required "index" Format.count).pair (Record.required "reason" Rejection.format)).map
    (fun parts => ⟨parts.1, parts.2⟩) fun rejected => (rejected.index, rejected.reason)).format

end RejectedKey

end CensusNode
