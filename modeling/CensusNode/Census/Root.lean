import CensusNode.Codec.Basic
import CensusNode.Hash.Merkle
import CensusNode.Json.Format
import CensusNode.Text.Hex

/-!
Census roots: commitments of 32 bytes to the members of a census. Their text is hexadecimal and
may start with `0x` marks when it is read.
-/

namespace CensusNode

structure CensusRoot where
  digest : Digest
deriving DecidableEq

inductive RootFault where
  | invalidHex (fault : Hex.Fault)
  | invalidLength (length : Nat)
deriving DecidableEq, Repr

def RootFault.name : RootFault → String
  | .invalidHex _ => "InvalidHex"
  | .invalidLength _ => "InvalidLength"

def RootFault.message : RootFault → String
  | .invalidHex fault => "census root is not valid hex: " ++ fault.message
  | .invalidLength length => "census root must be 32 bytes, got " ++ Decimal.encode length

namespace CensusRoot

def bytes (root : CensusRoot) : Bytes := root.digest.bytes

def ofBytes (bytes : Bytes) : Except RootFault CensusRoot :=
  match Block.ofBytes? 32 bytes with
  | some digest => .ok ⟨digest⟩
  | none => .error (.invalidLength bytes.length)

def display (root : CensusRoot) : String := Hex.encode root.bytes

def parse (text : String) : Except RootFault CensusRoot :=
  match Hex.decodeMarked text with
  | .ok bytes => ofBytes bytes
  | .error fault => .error (.invalidHex fault)

def compare (left right : CensusRoot) : Ordering :=
  let rec walk : Bytes → Bytes → Ordering
    | [], [] => .eq
    | [], _ :: _ => .lt
    | _ :: _, [] => .gt
    | first :: rest, other :: others =>
        if first < other then .lt else if other < first then .gt else walk rest others
  walk left.bytes right.bytes

def codec : Codec CensusRoot := (Codec.block 32).map CensusRoot.mk CensusRoot.digest

def format : Format CensusRoot :=
  Format.string.refine
    (fun text => match parse text with
      | .ok root => .ok root
      | .error fault => .error (.text fault.message))
    display

end CensusRoot

end CensusNode
