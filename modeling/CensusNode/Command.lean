import CensusNode.Service.Basic
import CensusNode.View

/-!
The commands of a node and their JSON results. Texts from the command line are decoded first;
only then is the service asked, and after a change its result is read back.
-/

namespace CensusNode

inductive CensusAction where
  | new
  | close (id : CensusId)
  | root (id : CensusId)
  | info (id : CensusId)
  | addKeys (id : CensusId) (keys : List String) (background : Bool)
  | setStatus (id : CensusId) (message : String)
deriving DecidableEq, Repr

inductive VotesAction where
  | list (root : String) (cursor : Option String) (limit : Nat) (all : Bool)
  | store (root : String) (index : UInt64) (signature publicKey merkleProof vote : String)
  | get (index : UInt64)
deriving DecidableEq, Repr

inductive Command where
  | census (action : CensusAction)
  | votes (action : VotesAction)
  | schema
deriving DecidableEq, Repr

inductive HexArgument where
  | publicKey
  | signature
  | merkleProof
  | vote
deriving DecidableEq, Repr

def HexArgument.name : HexArgument → String
  | .publicKey => "public key"
  | .signature => "signature"
  | .merkleProof => "merkle proof"
  | .vote => "vote"

inductive CommandError where
  | service (error : ServiceError)
  | hex (argument : HexArgument) (fault : Hex.Fault)
  | root (fault : RootFault)
  | signatureLength (length : Nat)
  | background (reason : String)
deriving DecidableEq, Repr

namespace CommandError

def message : CommandError → String
  | .service error => error.message
  | .hex argument fault => argument.name ++ " is not valid hex: " ++ fault.message
  | .root fault => fault.message
  | .signatureLength length =>
      "signature must be " ++ Decimal.encode CensusNode.signatureLength ++ " bytes, got " ++
        Decimal.encode length
  | .background reason => "background ingestion task failed: " ++ reason

def code : CommandError → ErrorCode
  | .service error => error.code
  | .hex .. | .root _ | .signatureLength _ => .invalidArgument
  | .background _ => .computeFault

/-- Whether whoever meets an error is brought down. -/
def crashes : CommandError → Bool
  | .service error => error.crashes
  | _ => false

def view (error : CommandError) : Json := View.error error.code error.message

end CommandError

namespace Command

def decodeHex (argument : HexArgument) (text : String) : Except CommandError Bytes :=
  match Hex.decodeMarked text with
  | .ok bytes => .ok bytes
  | .error fault => .error (.hex argument fault)

def decodeKeys : List String → Except CommandError (List PublicKey)
  | [] => .ok []
  | text :: rest =>
      match decodeHex .publicKey text with
      | .error error => .error error
      | .ok bytes =>
          match decodeKeys rest with
          | .error error => .error error
          | .ok keys => .ok (⟨bytes⟩ :: keys)

def decodeRoot (text : String) : Except CommandError CensusRoot :=
  match CensusRoot.parse text with
  | .ok root => .ok root
  | .error fault => .error (.root fault)

def decodePackage (index : UInt64) (signature publicKey merkleProof vote : String) :
    Except CommandError VotePackage := do
  let signatureBytes ← decodeHex .signature signature
  match Block.ofBytes? 64 signatureBytes with
  | none => .error (.signatureLength signatureBytes.length)
  | some signature =>
      let publicKey ← decodeHex .publicKey publicKey
      let merkleProof ← decodeHex .merkleProof merkleProof
      let vote ← decodeHex .vote vote
      .ok { signature, index, publicKey, merkleProof, vote }

def answer {α : Type} (render : α → Json) (result : Except ServiceError α × Service) :
    Except CommandError Json × Service :=
  match result with
  | (.ok value, service) => (.ok (render value), service)
  | (.error error, service) => (.error (.service error), service)

/-- The summary of a census after a change that has gone well. -/
def summaryAfter {α : Type} (id : CensusId) (change : Except ServiceError α × Service) :
    Except CommandError Json × Service :=
  match change with
  | (.ok _, service) => answer CensusInfo.format.write (service.censusInfo id)
  | (.error error, service) => (.error (.service error), service)

def runCensus (service : Service) (now : Instant) :
    CensusAction → Except CommandError Json × Service
  | .new => answer View.created service.newCensus
  | .close id => summaryAfter id (service.closeCensus id)
  | .root id => answer (View.root id) (service.censusRoot id)
  | .info id => answer CensusInfo.format.write (service.censusInfo id)
  | .addKeys id keys background =>
      match decodeKeys keys with
      | .error error => (.error error, service)
      | .ok keys =>
          if background then
            answer CensusInfo.format.write ((service.ingest id keys now).censusInfo id)
          else summaryAfter id (service.addKeys id keys)
  | .setStatus id message =>
      summaryAfter id (service.setStatus id (CensusStatus.pending message now))

def answerRead {α : Type} (service : Service) (render : α → Json)
    (result : Except ServiceError α) : Except CommandError Json × Service :=
  answer render (result, service)

def runVotes (service : Service) (now : Instant) :
    VotesAction → Except CommandError Json × Service
  | .list root cursor limit all =>
      match decodeRoot root with
      | .error error => (.error error, service)
      | .ok root =>
          if all then
            answerRead service (fun packages => .array (packages.map View.package))
              (service.votesByRoot root)
          else answerRead service View.page (service.votePage root cursor limit)
  | .store root index signature publicKey merkleProof vote =>
      match decodeRoot root with
      | .error error => (.error error, service)
      | .ok root =>
          match decodePackage index signature publicKey merkleProof vote with
          | .error error => (.error error, service)
          | .ok package =>
              match service.storeVote root package now with
              | (.error error, service) => (.error (.service error), service)
              | (.ok (), service) => answerRead service View.stored (service.vote index)
  | .get index => answerRead service View.stored (service.vote index)

end Command

end CensusNode
