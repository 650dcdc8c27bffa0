import CensusNode.Config.Node
import CensusNode.Registry.Error

/-!
The registry of censuses. Each census has a store of its own below one directory and is loaded on
its first use. A new census takes the identifier in the counter of the control store; the counter
advances only once the census is loaded.
-/

namespace CensusNode

/-- A loaded census: the file of its store, and its seal when it is closed. -/
structure LoadedCensus where
  id : CensusId
  file : FileId
  sealed : Option Sealed
deriving DecidableEq

structure Registry where
  disk : Disk
  control : FileId
  censusRoot : String
  loaded : List LoadedCensus
  storeOpens : Nat

namespace Registry

def storeFileName : String := "census.redb"

def censusDirectory (root : String) (id : CensusId) : String :=
  Path.join root (Decimal.encode id.value.toNat)

def censusPath (root : String) (id : CensusId) : String :=
  Path.join (censusDirectory root id) storeFileName

def openStoreIn (disk : Disk) (directory : Option String) (path : String) :
    Except StoreError FileId × Disk :=
  match disk.prepare directory with
  | (some (failed, fault), disk) => (.error (.createDirectory failed fault), disk)
  | (none, disk) =>
      match disk.openStore path with
      | (.ok file, disk) => (.ok file, disk)
      | (.error fault, disk) => (.error (.openFile path fault), disk)

/-- Opens the control store at a path and seeds its counter. No census is loaded yet. -/
def openAt (disk : Disk) (controlPath censusRoot : String) :
    Except RegistryError Registry × Disk :=
  match openStoreIn disk (Path.namedParent? controlPath) controlPath with
  | (.error error, disk) => (.error (.control error), disk)
  | (.ok control, disk) =>
      match Counter.seed (disk.storeAt control) with
      | .error error => (.error (.counter error), disk.release control)
      | .ok (_, store) =>
          let disk := disk.setStore control store
          (.ok { disk, control, censusRoot, loaded := [], storeOpens := 0 }, disk)

def tablesOf (registry : Registry) (census : LoadedCensus) : CensusTables :=
  (registry.disk.storeAt census.file).census

def setOf (registry : Registry) (census : LoadedCensus) : IdentitySet :=
  ⟨registry.tablesOf census, census.sealed⟩

def find? (registry : Registry) (id : CensusId) : Option LoadedCensus :=
  registry.loaded.find? fun census => census.id = id

/-- Opens the store of a census. An opened store counts even when its tables do not load. -/
def load (registry : Registry) (id : CensusId) : Except RegistryError LoadedCensus × Registry :=
  let directory := censusDirectory registry.censusRoot id
  match openStoreIn registry.disk (some directory) (censusPath registry.censusRoot id) with
  | (.error error, disk) => (.error (.load id error), { registry with disk })
  | (.ok file, disk) =>
      let registry := { registry with disk, storeOpens := registry.storeOpens + 1 }
      match IdentitySet.load (disk.storeAt file).census with
      | .error error =>
          (.error (.identitySet id error), { registry with disk := disk.release file })
      | .ok set => (.ok ⟨id, file, set.sealed⟩, registry)

def resolve (registry : Registry) (id : CensusId) : Except RegistryError LoadedCensus × Registry :=
  match registry.find? id with
  | some census => (.ok census, registry)
  | none =>
      match registry.load id with
      | (.error error, registry) => (.error error, registry)
      | (.ok census, registry) =>
          (.ok census, { registry with loaded := registry.loaded ++ [census] })

def query {α : Type} (registry : Registry) (id : CensusId)
    (question : IdentitySet → Except IdentityError α) : Except RegistryError α × Registry :=
  match registry.resolve id with
  | (.error error, registry) => (.error error, registry)
  | (.ok census, registry) =>
      match question (registry.setOf census) with
      | .ok answer => (.ok answer, registry)
      | .error error => (.error (.identitySet id error), registry)

def putSet (registry : Registry) (census : LoadedCensus) (set : IdentitySet) : Registry :=
  let store := { registry.disk.storeAt census.file with census := set.tables }
  { registry with
    disk := registry.disk.setStore census.file store
    loaded := registry.loaded.map fun other =>
      if other.id = census.id then { other with sealed := set.sealed } else other }

/-- Changes the identity set of a census. A refused change leaves it alone. -/
def update {α : Type} (registry : Registry) (id : CensusId)
    (change : IdentitySet → Except IdentityError (α × IdentitySet)) :
    Except RegistryError α × Registry :=
  match registry.resolve id with
  | (.error error, registry) => (.error error, registry)
  | (.ok census, registry) =>
      match change (registry.setOf census) with
      | .ok (answer, set) => (.ok answer, registry.putSet census set)
      | .error error => (.error (.identitySet id error), registry)

def nextId (registry : Registry) : Except RegistryError CensusId :=
  match Counter.peek (registry.disk.storeAt registry.control) with
  | .ok id => .ok id
  | .error error => .error (.counter error)

def newCensus (registry : Registry) : Except RegistryError CensusId × Registry :=
  match Counter.nextPair (registry.disk.storeAt registry.control) with
  | .error error => (.error (.counter error), registry)
  | .ok (id, next) =>
      match registry.resolve id with
      | (.error error, registry) => (.error error, registry)
      | (.ok _, registry) =>
          let store := Counter.write next (registry.disk.storeAt registry.control)
          (.ok id, { registry with disk := registry.disk.setStore registry.control store })

def closeCensus (registry : Registry) (id : CensusId) : Except RegistryError Unit × Registry :=
  registry.update id fun set => .ok ((), set.close)

def root (registry : Registry) (id : CensusId) : Except RegistryError CensusRoot × Registry :=
  registry.query id IdentitySet.root

def info (registry : Registry) (id : CensusId) : Except RegistryError CensusInfo × Registry :=
  registry.query id (IdentitySet.info id)

/-- Adds a batch of keys to a census, all or none. -/
def addKeys (registry : Registry) (id : CensusId) (keys : List PublicKey) :
    Except RegistryError Unit × Registry :=
  match registry.update id fun set => set.addKeys keys with
  | (.error error, registry) => (.error error, registry)
  | (.ok [], registry) => (.ok (), registry)
  | (.ok (first :: rest), registry) =>
      (.error (.invalidKeys id keys.length (rest.length + 1) first.index first.reason), registry)

def setStatus (registry : Registry) (id : CensusId) (status : CensusStatus) :
    Except RegistryError Unit × Registry :=
  registry.update id fun set => .ok ((), set.setStatus status)

/-- Adds a batch of keys and records the outcome as the status of the census. Nothing is raised:
a status that cannot be written is dropped. -/
def ingest (registry : Registry) (id : CensusId) (keys : List PublicKey) (now : Instant) :
    Registry :=
  let (outcome, registry) := registry.addKeys id keys
  let status := match outcome with
    | .ok () =>
        CensusStatus.ready ("added " ++ Decimal.encode keys.length ++ " public keys") now
    | .error error => error.toStatus now
  (registry.setStatus id status).2

def loadedIds (registry : Registry) : List CensusId :=
  (registry.loaded.map LoadedCensus.id).mergeSort fun left right => left.value ≤ right.value

def close (registry : Registry) : Disk :=
  (registry.control :: registry.loaded.map LoadedCensus.file).foldl Disk.release registry.disk

end Registry

end CensusNode
