import CensusNode.Bytes
import CensusNode.Disk.Fault
import CensusNode.Text.Decimal

/-!
Why bytes that no store was written as cannot be opened as one. The bytes of a store start with a
mark, and a header follows that names the version of its form once in each of two slots. A header
alone, with both versions known, brings down whoever opens it.
-/

namespace CensusNode

inductive StoreFault where
  | alreadyOpen
  | io (fault : IoFault)
  | invalidData
  | endOfFile
  | upgradeRequired (version : Nat)
  | unknownVersion (version : Nat)
  | crashed
deriving DecidableEq, Repr

namespace StoreFault

def message : StoreFault → String
  | .alreadyOpen => "Database already open. Cannot acquire lock."
  | .io fault => "I/O error: " ++ fault.message
  | .invalidData => "I/O error: invalid data"
  | .endOfFile => "I/O error: failed to fill whole buffer"
  | .upgradeRequired version =>
      "Manual upgrade required. Expected file format version 2, but file is version " ++
        Decimal.encode version
  | .unknownVersion version =>
      "DB corrupted: Expected file format version <= 3, found " ++ Decimal.encode version
  | .crashed => ""

end StoreFault

namespace StoreHeader

def mark : Bytes := [0x72, 0x65, 0x64, 0x62, 0x1a, 0x0a, 0xa9, 0x0d, 0x0a]

def size : Nat := 320

def firstSlot : Nat := 64

def slotSize : Nat := 128

def versionFault? (version : Nat) : Option StoreFault :=
  if version = 1 then some (.upgradeRequired version)
  else if version = 2 ∨ version = 3 then none
  else some (.unknownVersion version)

def versionAt (offset : Nat) (bytes : Bytes) : Nat := (bytes.drop offset).head?.elim 0 UInt8.toNat

def fault (bytes : Bytes) : StoreFault :=
  if !mark.isPrefixOf bytes then .invalidData
  else if bytes.length < size then .endOfFile
  else
    match versionFault? (versionAt firstSlot bytes),
      versionFault? (versionAt (firstSlot + slotSize) bytes) with
    | some fault, _ => fault
    | none, some fault => fault
    | none, none => .crashed

end StoreHeader

end CensusNode
