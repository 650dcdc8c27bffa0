import CensusNode.Census.Id
import CensusNode.Census.Tables

/-!
The counter of census identifiers. It holds the identifier that is allocated next, as eight bytes
with the least significant first. Seeding writes zero only where there is no counter yet, and a
counter of any other length is refused and left alone.
-/

namespace CensusNode

inductive CounterError where
  | notFound
  | corrupted (length : Nat)
  | exhausted (last : CensusId)
  | noTable
deriving DecidableEq, Repr

def CounterError.name : CounterError → String
  | .notFound => "NotFound"
  | .corrupted _ => "Corrupted"
  | .exhausted _ => "Exhausted"
  | .noTable => "Table"

def CounterError.message : CounterError → String
  | .notFound => "Census id counter has not been initialized"
  | .corrupted length =>
      "Census id counter is corrupted: expected 8 bytes, found " ++ Decimal.encode length
  | .exhausted last => "Census id space exhausted after " ++ last.display
  | .noTable => "Table error: Table 'control' does not exist"

namespace Counter

def encode (next : CensusId) : Bytes := littleEndian 8 next.value.toNat

def decode (bytes : Bytes) : Except CounterError CensusId :=
  if bytes.length = 8 then .ok ⟨UInt64.ofNat (ofLittleEndian bytes)⟩
  else .error (.corrupted bytes.length)

def read (table : ControlTable) : Except CounterError CensusId :=
  match table.counter with
  | some bytes => decode bytes
  | none => .error .notFound

/-- The control table of a store. A writer creates it when it is not there. -/
def tableOf (store : Store) : ControlTable := store.control.getD ⟨none⟩

def write (next : CensusId) (store : Store) : Store :=
  { store with control := some ⟨some (encode next)⟩ }

def successor (current : CensusId) : Except CounterError CensusId :=
  match current.next? with
  | some next => .ok next
  | none => .error (.exhausted current)

/-- The counter of a store, which is set to zero when there is none. -/
def seed (store : Store) : Except CounterError (CensusId × Store) :=
  match read (tableOf store) with
  | .ok next => .ok (next, store)
  | .error .notFound => .ok (⟨0⟩, write ⟨0⟩ store)
  | .error error => .error error

def peek (store : Store) : Except CounterError CensusId :=
  match store.control with
  | some table => read table
  | none => .error .noTable

def nextPair (store : Store) : Except CounterError (CensusId × CensusId) := do
  let current ← read (tableOf store)
  let next ← successor current
  .ok (current, next)

end Counter

end CensusNode
