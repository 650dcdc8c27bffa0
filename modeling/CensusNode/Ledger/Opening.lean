import CensusNode.Disk.Basic
import CensusNode.Outcome

/-!
Opening and closing the ledger at a path. A ledger file has companions beside it, named after it: a
journal for changes made in place, and a log with its index for changes that are gathered first. A
ledger is moved to a log whenever that can be done, then it gets the table of its rows. A companion
is only a name: whatever lies there is taken for one, and is taken away with it.
-/

namespace CensusNode

/-- An open ledger: its file, whether it takes new rows, the log in use, and the companions that
go when it is closed. -/
structure OpenLedger where
  file : FileId
  writable : Bool
  log : Option FileId
  leftovers : List Location
deriving DecidableEq, Repr

namespace OpenLedger

def logMark : Bytes := [0x37, 0x7f, 0x06, 0x82]

def markLog (ledger : OpenLedger) (disk : Disk) : Disk :=
  match ledger.log with
  | none => disk
  | some log => if disk.isHeld log then disk else disk.setContent log (.raw logMark)

def rows (ledger : OpenLedger) (disk : Disk) : List VoteRow := disk.rowsAt ledger.file

def putRows (ledger : OpenLedger) (disk : Disk) (rows : List VoteRow) : Disk :=
  ledger.markLog
    (disk.setContent ledger.file ((disk.content ledger.file).withRows rows))

def close (ledger : OpenLedger) (disk : Disk) : Disk := ledger.leftovers.foldl Disk.unlink disk

end OpenLedger

namespace Ledger

def pathLimit : Nat := 512

/-- The number of bytes by which the name of a journal is longer than that of its ledger file. -/
def journalSuffixLength : Nat := 8

def fullLength : Location → Nat
  | [] => 0
  | name :: rest => Utf8.pathSize name + 1 + fullLength rest

def beside (location : Location) (suffix : String) : Location :=
  (location.headD "" ++ suffix) :: location.tail

def journalOf (location : Location) : Location := beside location "-journal"

def logOf (location : Location) : Location := beside location "-wal"

def indexOf (location : Location) : Location := beside location "-shm"

def lockOf (location : Location) : Location := beside location ".lock"

def nameTooLong (location : Location) : Bool :=
  Disk.nameLimit < Utf8.pathSize (location.headD "")

def indexMark : Bytes := [0x18, 0xe2, 0x2d, 0x00]

/-- The location that the names of a path lead to. A name that steps back cancels the one before
it, whatever that is; a name below a file leads nowhere. -/
def resolve (disk : Disk) (location : Location) : List String → Option Location
  | [] => some location
  | segment :: rest =>
      if Path.isSelf segment then resolve disk location rest
      else if segment = ".." then resolve disk location.tail rest
      else if Disk.nameLimit < Utf8.pathSize segment then none
      else if (disk.fileAt? location).isSome then none
      else if pathLimit ≤ fullLength (segment :: location) then none
      else resolve disk (segment :: location) rest

/-- The location of a ledger file that may or may not be there. Its journal has to fit beside it. -/
def locate (disk : Disk) (path : String) : Option Location :=
  match resolve disk (disk.origin path) (Path.segments path) with
  | none => none
  | some location =>
      if pathLimit < fullLength location + journalSuffixLength then none else some location

/-- Whether a new file would take its permissions from one that is not there. -/
def lacksModel (disk : Disk) (options : LedgerOptions) : Bool :=
  options.permissionsOf.any fun path => !disk.finds path

def findFile (disk : Disk) (path target : String) (options : LedgerOptions) :
    Except DatabaseFault (Location × FileId) × Disk :=
  match locate disk target with
  | none => (.error (.cannotOpen path), disk)
  | some location =>
      if lacksModel disk options then (.error .ioError, disk)
      else if disk.isDirectory location then
        (.error (if options.access = .readOnly then .ioError else .cannotOpen path), disk)
      else
        match disk.fileAt? location with
        | some file => (.ok (location, file), disk)
        | none =>
            if options.access = .create && disk.isDirectory location.tail then
              let (file, disk) := disk.create location FileContent.empty
              (.ok (location, file), disk)
            else (.error (.cannotOpen path), disk)

structure Session where
  disk : Disk
  options : LedgerOptions
  location : Location
  ledger : OpenLedger

namespace Session

def content (session : Session) : FileContent := session.disk.content session.ledger.file

def withDisk (session : Session) (disk : Disk) : Session := { session with disk }

def close (session : Session) : Disk := session.ledger.close session.disk

def allowsLog (session : Session) : Bool :=
  session.options.locks && !session.options.immutable

def checkLock (session : Session) : Except DatabaseFault Unit :=
  let lock := lockOf session.location
  if session.options.fileSystem ≠ .lockDirectory || session.options.unlocked then .ok ()
  else if nameTooLong lock then .error .ioError
  else if session.disk.isThere lock then .error .locked
  else .ok ()

/-- Settles what an earlier session may have left in the journal: a journal without its ledger is
taken away, and so is one that has been played back. -/
def settleJournal (session : Session) : Except DatabaseFault Session :=
  let journal := journalOf session.location
  let removed := session.withDisk (session.disk.unlink journal)
  let readOnly := session.options.access = .readOnly
  if session.disk.isDirectory journal then
    if session.content.hasPages then .error .ioError else .ok session
  else
    match session.disk.file? journal with
    | none | some (.raw []) => .ok session
    | some found =>
        if !session.content.hasPages then
          .ok (if readOnly && session.options.locks then session else removed)
        else if found.startsWithNull then .ok session
        else if readOnly then .error .readOnly
        else .ok removed

/-- Makes a journal for a change in place, which goes with it. -/
def useJournal (session : Session) : Except DatabaseFault Session :=
  let journal := journalOf session.location
  if session.disk.isDirectory journal || nameTooLong journal then .error .cannotOpenCompanion
  else .ok (session.withDisk (session.disk.unlink journal))

/-- Opens the index of the log. It is of no use when it cannot be written. -/
def openIndex (session : Session) : Except DatabaseFault (Bool × Session) :=
  let index := indexOf session.location
  if session.options.fileSystem = .exclusive then .ok (true, session)
  else if session.options.indexReadOnly then
    if session.disk.isThere index then .ok (false, session) else .error .cannotOpenCompanion
  else if session.disk.isDirectory index then .ok (false, session)
  else
    let (file, disk) := session.disk.fileFor index
    .ok (true, session.withDisk
      (if disk.isHeld file then disk else disk.setContent file (.raw indexMark)))

end Session

/-- A step of opening a ledger. What it has done to the disk stays when it fails. -/
abbrev Opening (α : Type) := EStateM DatabaseFault Session α

namespace Opening

def change (step : Session → Except DatabaseFault Session) : Opening Unit := do
  match step (← get) with
  | .ok session => set session
  | .error fault => throw fault

/-- Opens the log of a ledger. Bytes that are no log count as an empty one. Only a session that can
write takes the log away again, as it then holds nothing that is not in the ledger file. -/
def openLog : Opening Unit := do
  let session ← get
  let location := logOf session.location
  if !session.allowsLog || session.disk.isDirectory location then throw .cannotOpenCompanion
  let (log, disk) := session.disk.fileFor location
  set (session.withDisk disk)
  match (session.withDisk disk).openIndex with
  | .error fault => throw fault
  | .ok (reliable, session) =>
      if !reliable && !(session.disk.content log).isEmpty then throw .lockingProtocol
      let companions :=
        if session.options.fileSystem = .exclusive then [location]
        else [location, indexOf session.location]
      let kept := session.options.access = .readOnly || !reliable
      set { session with
        ledger := { session.ledger with
          writable := session.ledger.writable && reliable
          log := some log
          leftovers := if kept then [] else companions } }

/-- Settles what an earlier session may have left in the log: a log without its ledger is taken
away, any other one is opened. -/
def settleLog : Opening Unit := do
  let session ← get
  let location := logOf session.location
  if session.disk.isDirectory location then
    if session.content.hasPages then openLog else throw .ioError
  else if (session.disk.file? location).any fun found => !found.isEmpty then
    if session.content.hasPages then openLog
    else set (session.withDisk (session.disk.unlink location))

def readHeader : Opening Unit := do
  let session ← get
  match session.content.logged with
  | .error fault => throw fault
  | .ok logged =>
      if logged && session.ledger.log.isNone && !session.options.immutable then openLog
  let session ← get
  match session.content.layoutFault? with
  | some fault => throw fault
  | none =>
      if session.content.frozen then
        set { session with ledger := { session.ledger with writable := false } }

def moveToLog : Opening Unit := do
  let session ← get
  if session.allowsLog && session.ledger.log.isNone then
    if !session.ledger.writable then throw .readOnly
    change Session.useJournal
    modify fun session =>
      session.withDisk (session.disk.setContent session.ledger.file session.content.switchOnLog)

def prepare : Opening Unit := do
  let session ← get
  unless session.options.immutable do
    change fun session => session.checkLock.map fun _ => session
    change Session.settleJournal
    settleLog
  readHeader
  moveToLog

def ensureTable : Opening Unit := do
  let session ← get
  if session.content.logged.toOption = some true && session.ledger.log.isNone &&
      !session.options.immutable then openLog
  let session ← get
  unless session.content.hasTable do
    if !session.ledger.writable then throw .readOnly
    match session.content.tableFault? with
    | some fault => throw fault
    | none => pure ()
    if session.ledger.log.isNone then change Session.useJournal
    modify fun session => session.withDisk (session.ledger.putRows session.disk [])

end Opening

/-- The longest time, in whole milliseconds, that a writer can be told to wait. -/
def busyTimeoutLimit : Nat := 2147483647

/-- Opens the ledger in a file. A waiting time beyond the limit brings the process down once the
file can be read. -/
def openFile (disk : Disk) (path target : String) (options : LedgerOptions)
    (config : LedgerConfig) : Outcome LedgerError OpenLedger × Disk :=
  match findFile disk path target options with
  | (.error fault, disk) => (.failed (.openFile path fault), disk)
  | (.ok (location, file), disk) =>
      let ledger : OpenLedger := ⟨file, !options.readOnly, none, []⟩
      match Opening.prepare.run ⟨disk, options, location, ledger⟩ with
      | .error fault session => (.failed (.openFile path fault), session.close)
      | .ok () session =>
          if busyTimeoutLimit < config.busyTimeout.millis then (.crashed, session.close)
          else
            match Opening.ensureTable.run session with
            | .error fault session => (.failed (.database fault), session.close)
            | .ok () session => (.done session.ledger, session.disk)

/-- Opens a ledger that lies in no file. It starts anew. -/
def openFleeting (disk : Disk) (readOnly : Bool) (config : LedgerConfig) :
    Outcome LedgerError OpenLedger × Disk :=
  if busyTimeoutLimit < config.busyTimeout.millis then (.crashed, disk)
  else if readOnly then (.failed (.database .readOnly), disk)
  else
    let (file, disk) := disk.createUnnamed (.ledger ⟨false, some []⟩)
    (.done ⟨file, true, none, []⟩, disk)

def openAt (disk : Disk) (path : String) (config : LedgerConfig) :
    Outcome LedgerError OpenLedger × Disk :=
  match disk.prepare (Path.namedParent? path) with
  | (some (failed, fault), disk) => (.failed (.createDirectory failed fault), disk)
  | (none, disk) =>
      match path.toList.idxOf? '\x00', LedgerAddress.place path with
      | some position, _ =>
          let before := String.ofList (path.toList.take position)
          (.failed (.openFile path (.nulByte before.utf8ByteSize)), disk)
      | none, .error fault => (.failed (.openFile path (.address fault)), disk)
      | none, .ok (.fleeting readOnly) => openFleeting disk readOnly config
      | none, .ok (.file target options) => openFile disk path target options config

end Ledger

end CensusNode
