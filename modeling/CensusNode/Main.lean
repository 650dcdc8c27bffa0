import CensusNode.Disk.Image
import CensusNode.Program
import Std.Time.DateTime.Timestamp

/-!
The program itself. It reads the clock, the environment and the files that a command line is
about, runs the command on them, writes back what has changed and prints what came of it.
-/

namespace CensusNode.Main

def pathOf (location : Location) : String := "/" ++ Path.ofSegments location.reverse

def isDirectory (location : Location) : BaseIO Bool := (System.mkFilePath [pathOf location]).isDir

def readFile? (location : Location) : BaseIO (Option FileContent) := do
  match ← (IO.FS.readBinFile (System.mkFilePath [pathOf location])).toBaseIO with
  | .ok bytes => pure (some (FileContent.decode bytes.toList))
  | .error _ => pure none

/-- The disk with everything on the way that names lead, as far as there is anything. -/
def loadAlong (disk : Disk) (location : Location) : List String → BaseIO Disk
  | [] => pure disk
  | segment :: rest =>
      if Path.isSelf segment then loadAlong disk location rest
      else if segment = ".." then loadAlong disk location.tail rest
      else do
        let inner := segment :: location
        if ← isDirectory inner then
          let directories :=
            if disk.isDirectory inner then disk.directories else inner :: disk.directories
          loadAlong { disk with directories } inner rest
        else
          match ← readFile? inner with
          | some content => pure (disk.setFile inner content)
          | none => pure disk

def loadPath (disk : Disk) (path : String) : BaseIO Disk :=
  loadAlong disk (disk.origin path) (Path.segments path)

def namesIn (path : String) : BaseIO (List String) := do
  match ← (System.mkFilePath [path]).readDir.toBaseIO with
  | .ok entries => pure (entries.toList.map fun entry => entry.fileName)
  | .error _ => pure []

def companionSuffixes : List String := ["-journal", "-wal", "-shm", ".lock"]

/-- The disk with everything on the way to a ledger, to the file that it lies in and to the
companions of that. -/
def loadLedger (disk : Disk) (path : String) : BaseIO Disk := do
  let disk ← loadPath disk path
  match LedgerAddress.place path with
  | .ok (.file target options) =>
      let others := (companionSuffixes.map (target ++ ·)) ++ options.permissionsOf.toList
      (target :: others).foldlM loadPath disk
  | _ => pure disk

def loadNode (disk : Disk) (config : NodeConfig) : BaseIO Disk := do
  let disk ← loadPath disk config.controlPath
  let disk ← loadLedger disk config.ledgerPath
  let disk ← loadPath disk config.censusRootPath
  (← namesIn (pathOf (disk.locationOf config.censusRootPath))).foldlM
    (fun disk name =>
      loadPath disk (Path.join (Path.join config.censusRootPath name) Registry.storeFileName))
    disk

def startingDisk : IO Disk := do
  let path := (← IO.currentDir).toString
  let workingDirectory := ((Path.segments path).filter fun segment => segment ≠ "").reverse
  loadPath { workingDirectory, directories := [], names := [], contents := [], held := [] } path

/-- Whether the host can spell the names of a location. -/
def isSpelled (location : Location) : Bool := !location.any fun name => name.toList.contains '\x00'

/-- Writes the directories and files of a disk that an earlier one does not have as they are, and
removes the files that it no longer names. -/
def save (before after : Disk) : IO Unit := do
  for location in after.directories.reverse do
    unless before.isDirectory location do
      IO.FS.createDirAll (System.mkFilePath [pathOf location])
  for (location, _) in before.names do
    if (after.fileAt? location).isNone then
      IO.FS.removeFile (System.mkFilePath [pathOf location])
  for (location, file) in after.names do
    unless before.file? location = some (after.content file) || !isSpelled location do
      IO.FS.writeBinFile (System.mkFilePath [pathOf location])
        (FileContent.encode (after.content file)).toByteArray

def readEnvironment : BaseIO CommandLine.Environment :=
  CommandLine.globalOptions.filterMapM fun (_, name, _) => do
    pure ((← IO.getEnv name).map fun value => (name, value))

def readClock : IO Instant := do
  let nanos := (← Std.Time.Timestamp.now).toNanosecondsSinceUnixEpoch.val
  pure ((Instant.of? (nanos / 1000000000) (nanos % 1000000000).toNat).getD Instant.epoch)

def run (arguments : List String) : IO UInt32 := do
  let environment ← readEnvironment
  let start ← startingDisk
  let before ← match CommandLine.parse arguments environment with
    | .error refusal => do
        unless refusal.isRequest do IO.eprintln refusal.name
        pure start
    | .ok invocation =>
        match invocation.command, invocation.options.nodeConfig with
        | .schema, _ | _, .error _ => pure start
        | _, .ok config => loadNode start config
  let (result, after) := Program.run arguments environment before (← readClock)
  save before after
  for output in result.output do IO.println (output.indented 0)
  for error in result.error do IO.eprintln error.compact
  pure (UInt32.ofNat result.exitCode)

end CensusNode.Main

def main (arguments : List String) : IO UInt32 := CensusNode.Main.run arguments
