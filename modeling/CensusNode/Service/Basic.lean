import CensusNode.Ledger.Opening
import CensusNode.Registry.Basic

/-!
The census service: the registry and the vote ledger of one node, opened together from its
configuration and working on the same disk.
-/

namespace CensusNode

inductive ServiceError where
  | config (error : ConfigError)
  | registry (error : RegistryError)
  | ledger (error : LedgerError)
deriving DecidableEq, Repr

namespace ServiceError

def message : ServiceError → String
  | .config error => error.message
  | .registry error => error.message
  | .ledger error => error.message

def code : ServiceError → ErrorCode
  | .config _ => .config
  | .registry error => error.code
  | .ledger error => error.code

def crashes : ServiceError → Bool
  | .registry error => error.crashes
  | _ => false

end ServiceError

structure Service where
  registry : Registry
  ledger : OpenLedger
  config : LedgerConfig

namespace Service

/-- Checks a configuration and opens the registry, then the ledger. -/
def openNode (disk : Disk) (config : NodeConfig) : Outcome ServiceError Service × Disk :=
  match config.validate with
  | .error error => (.failed (.config error), disk)
  | .ok () =>
      match Registry.openAt disk config.controlPath config.censusRootPath with
      | (.error error, disk) => (.failed (.registry error), disk)
      | (.ok registry, disk) =>
          match Ledger.openAt disk config.ledgerPath config.ledger with
          | (.crashed, disk) => (.crashed, { registry with disk }.close)
          | (.failed error, disk) => (.failed (.ledger error), { registry with disk }.close)
          | (.done ledger, disk) =>
              (.done { registry := { registry with disk }, ledger, config := config.ledger }, disk)

def disk (service : Service) : Disk := service.registry.disk

def close (service : Service) : Disk := service.ledger.close service.registry.close

def rows (service : Service) : List VoteRow := service.ledger.rows service.disk

def lift {α : Type} (service : Service) (answer : Except RegistryError α × Registry) :
    Except ServiceError α × Service :=
  let service := { service with registry := answer.2 }
  match answer.1 with
  | .ok value => (.ok value, service)
  | .error error => (.error (.registry error), service)

def liftLedger {α : Type} (answer : Except LedgerError α) : Except ServiceError α :=
  match answer with
  | .ok value => .ok value
  | .error error => .error (.ledger error)

def newCensus (service : Service) : Except ServiceError CensusId × Service :=
  service.lift service.registry.newCensus

def closeCensus (service : Service) (id : CensusId) : Except ServiceError Unit × Service :=
  service.lift (service.registry.closeCensus id)

def censusRoot (service : Service) (id : CensusId) : Except ServiceError CensusRoot × Service :=
  service.lift (service.registry.root id)

def censusInfo (service : Service) (id : CensusId) : Except ServiceError CensusInfo × Service :=
  service.lift (service.registry.info id)

def addKeys (service : Service) (id : CensusId) (keys : List PublicKey) :
    Except ServiceError Unit × Service :=
  service.lift (service.registry.addKeys id keys)

def ingest (service : Service) (id : CensusId) (keys : List PublicKey) (now : Instant) : Service :=
  { service with registry := service.registry.ingest id keys now }

def setStatus (service : Service) (id : CensusId) (status : CensusStatus) :
    Except ServiceError Unit × Service :=
  service.lift (service.registry.setStatus id status)

def putRows (service : Service) (rows : List VoteRow) : Service :=
  { service with
    registry := { service.registry with disk := service.ledger.putRows service.disk rows } }

/-- Adds a vote package under a root. A ledger that takes no rows refuses any that could be stored,
whether it agrees with another or not. -/
def storeVote (service : Service) (root : CensusRoot) (package : VotePackage) (now : Instant) :
    Except ServiceError Unit × Service :=
  if VoteRows.isStorable package && !service.ledger.writable then
    (.error (.ledger (.database .readOnly)), service)
  else
    match VoteRows.store service.rows root package now with
    | .ok rows => (.ok (), service.putRows rows)
    | .error error => (.error (.ledger error), service)

def votesByRoot (service : Service) (root : CensusRoot) : Except ServiceError (List VotePackage) :=
  liftLedger (VoteRows.byRoot service.rows root)

def votePage (service : Service) (root : CensusRoot) (cursor : Option String) (limit : Nat) :
    Except ServiceError VotePage :=
  liftLedger (VoteRows.page service.config service.rows root cursor limit)

def vote (service : Service) (index : UInt64) : Except ServiceError StoredVotePackage :=
  liftLedger (VoteRows.get service.rows index)

end Service

end CensusNode
