import CensusNode.Census.Counter
import CensusNode.Census.IdentitySet
import CensusNode.Disk.Basic

/-!
What can go wrong with the registry, and the status that records it.
-/

namespace CensusNode

inductive StoreError where
  | createDirectory (path : String) (fault : IoFault)
  | openFile (path : String) (fault : StoreFault)
deriving DecidableEq, Repr

def StoreError.message : StoreError → String
  | .createDirectory path fault => "Failed to create directory " ++ path ++ ": " ++ fault.message
  | .openFile path fault => "Failed to open database at " ++ path ++ ": " ++ fault.message

def StoreError.crashes : StoreError → Bool
  | .openFile _ .crashed => true
  | _ => false

inductive RegistryError where
  | control (error : StoreError)
  | load (id : CensusId) (error : StoreError)
  | counter (error : CounterError)
  | identitySet (id : CensusId) (error : IdentityError)
  | invalidKeys (id : CensusId) (submitted rejected firstIndex : Nat) (reason : Rejection)
deriving DecidableEq, Repr

namespace RegistryError

def message : RegistryError → String
  | .control error => "Failed to open control store: " ++ error.message
  | .load id error => "Failed to load " ++ id.display ++ ": " ++ error.message
  | .counter error => "Counter error: " ++ error.message
  | .identitySet id error => id.display ++ ": " ++ error.message
  | .invalidKeys id submitted rejected firstIndex reason =>
      id.display ++ " rejected " ++ Decimal.encode rejected ++ " of " ++
        Decimal.encode submitted ++ " public keys, first at position " ++
        Decimal.encode firstIndex ++ ": " ++ reason.message

def code : RegistryError → ErrorCode
  | .load .. | .counter .notFound => .notFound
  | .control _ | .counter _ => .storageFault
  | .identitySet _ error => error.code
  | .invalidKeys .. => .batchValidation

def crashes : RegistryError → Bool
  | .control error | .load _ error => error.crashes
  | _ => false

/-- The status that records an error, with the details of a refused batch. -/
def toStatus (error : RegistryError) (now : Instant) : CensusStatus :=
  let status := CensusStatus.failed error.code error.message now
  match error with
  | .invalidKeys _ _ rejected firstIndex _ =>
      status.withRejections (UInt64.ofNat rejected) (UInt64.ofNat firstIndex)
  | _ => status

end RegistryError

end CensusNode
