import CensusNode.Codec.Basic
import CensusNode.Json.Format
import CensusNode.Text.Decimal

/-!
Census identifiers. They are 64-bit words, allocated in increasing order, and the last one has no
successor.
-/

namespace CensusNode

structure CensusId where
  value : UInt64
deriving DecidableEq, Repr

namespace CensusId

def limit : Nat := 18446744073709551615

/-- The identifier that follows, unless this is the last one. -/
def next? (id : CensusId) : Option CensusId :=
  if id.value.toNat = limit then none else some ⟨id.value + 1⟩

def display (id : CensusId) : String := "census:" ++ Decimal.encode id.value.toNat

def parse (text : String) : Except Decimal.Fault CensusId :=
  match Decimal.decode limit text with
  | .ok number => .ok ⟨UInt64.ofNat number⟩
  | .error fault => .error fault

def codec : Codec CensusId := Codec.word64.map CensusId.mk CensusId.value

def format : Format CensusId := Format.word64.map CensusId.mk CensusId.value

end CensusId

end CensusNode
