/-!
JSON values. Numbers are integers of any size; a number in any other spelling keeps its text and
is no integer to any reader.
-/

namespace CensusNode

/-- A JSON value. The members of an object stand in the order in which they are written. -/
inductive Json where
  | null
  | bool (value : Bool)
  | integer (value : Int)
  | decimal (spelling : String)
  | string (value : String)
  | array (items : List Json)
  | object (members : List (String × Json))
deriving Repr, Inhabited

namespace Json

def nat (value : Nat) : Json := .integer value

def member? (name : String) : Json → Option Json
  | .object members => members.lookup name
  | _ => none

end Json

end CensusNode
