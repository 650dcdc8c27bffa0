import CensusNode.Bytes

/-!
The tables a store file holds. A census has three named records, a table of members by index and
a look-up table from member to index; both tables are kept in the order of their keys. A control
table holds the counter of census identifiers.
-/

namespace CensusNode

structure CensusTables where
  state : Option Bytes
  status : Option Bytes
  root : Option Bytes
  members : List (Nat × Bytes)
  lookup : List (Bytes × Nat)
deriving DecidableEq, Repr

namespace CensusTables

def empty : CensusTables := ⟨none, none, none, [], []⟩

def memberKeys (tables : CensusTables) : List Bytes := tables.members.map Prod.snd

def memberCount (tables : CensusTables) : Nat := tables.members.length

def insertAt (index : Nat) (key : Bytes) : List (Nat × Bytes) → List (Nat × Bytes)
  | [] => [(index, key)]
  | entry :: rest =>
      if index < entry.1 then (index, key) :: entry :: rest
      else if index = entry.1 then (index, key) :: rest
      else entry :: insertAt index key rest

def removeAt (index : Nat) (members : List (Nat × Bytes)) : List (Nat × Bytes) :=
  members.filter fun entry => entry.1 ≠ index

def assign (key : Bytes) (index : Nat) (lookup : List (Bytes × Nat)) : List (Bytes × Nat) :=
  (key, index) :: lookup.filter fun entry => entry.1 ≠ key

/-- The tables with keys appended from an index on. -/
def append (tables : CensusTables) : Nat → List Bytes → CensusTables
  | _, [] => tables
  | index, key :: rest =>
      { tables with
        members := insertAt index key tables.members
        lookup := assign key index tables.lookup }.append (index + 1) rest

end CensusTables

/-- The control table: the bytes of the counter, when there are any. -/
structure ControlTable where
  counter : Option Bytes
deriving DecidableEq, Repr

/-- The contents of a store file. The control table comes into being with the first write. -/
structure Store where
  control : Option ControlTable
  census : CensusTables
deriving DecidableEq, Repr

def Store.empty : Store := ⟨none, CensusTables.empty⟩

end CensusNode
