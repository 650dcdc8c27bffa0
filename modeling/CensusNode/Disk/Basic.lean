import CensusNode.Disk.Content
import CensusNode.Disk.StoreHeader
import CensusNode.Path

/-!
A directory tree with the files of a node. A location is the list of names that lead to it, the
innermost first. Paths are walked piece by piece from the working directory; making directories
only ever adds directories. Names lead to files, and a file outlives its name for those that have
it open. A store file is held by one owner at a time.
-/

namespace CensusNode

/-- A place in the directory tree: its names from the innermost outward. -/
abbrev Location := List String

abbrev FileId := Nat

structure Disk where
  workingDirectory : Location
  directories : List Location
  /-- The files that names lead to. -/
  names : List (Location × FileId)
  /-- The contents of the files in the order of their numbers. A file stays when its name is gone,
  for those that have it open. -/
  contents : List FileContent
  /-- The store files that an owner has open. -/
  held : List FileId
deriving Repr

namespace Disk

def isDirectory (disk : Disk) (location : Location) : Bool :=
  location = [] || disk.directories.contains location

def fileAt? (disk : Disk) (location : Location) : Option FileId := disk.names.lookup location

def content (disk : Disk) (file : FileId) : FileContent := disk.contents.getD file FileContent.empty

def file? (disk : Disk) (location : Location) : Option FileContent :=
  (disk.fileAt? location).map disk.content

def isThere (disk : Disk) (location : Location) : Bool :=
  disk.isDirectory location || (disk.fileAt? location).isSome

def setContent (disk : Disk) (file : FileId) (content : FileContent) : Disk :=
  { disk with contents := disk.contents.set file content }

def createUnnamed (disk : Disk) (content : FileContent) : FileId × Disk :=
  (disk.contents.length, { disk with contents := disk.contents ++ [content] })

def create (disk : Disk) (location : Location) (content : FileContent) : FileId × Disk :=
  let (file, disk) := disk.createUnnamed content
  (file, { disk with names := (location, file) :: disk.names })

/-- The file at a location, which is created without bytes when it is not there. -/
def fileFor (disk : Disk) (location : Location) : FileId × Disk :=
  match disk.fileAt? location with
  | some file => (file, disk)
  | none => disk.create location FileContent.empty

def setFile (disk : Disk) (location : Location) (content : FileContent) : Disk :=
  let (file, disk) := disk.fileFor location
  disk.setContent file content

def unlink (disk : Disk) (location : Location) : Disk :=
  { disk with names := disk.names.filter fun entry => entry.1 ≠ location }

def isHeld (disk : Disk) (file : FileId) : Bool := disk.held.contains file

def hold (disk : Disk) (file : FileId) : Disk := { disk with held := file :: disk.held }

def release (disk : Disk) (file : FileId) : Disk :=
  { disk with held := disk.held.filter (· ≠ file) }

def storeAt (disk : Disk) (file : FileId) : Store := (disk.content file).asStore

def setStore (disk : Disk) (file : FileId) (store : Store) : Disk :=
  disk.setContent file (.store store)

def rowsAt (disk : Disk) (file : FileId) : List VoteRow := (disk.content file).rows

def nameLimit : Nat := 255

/-- The number of bytes that no path reaches. -/
def pathLimit : Nat := 4096

def origin (disk : Disk) (path : String) : Location :=
  if Path.isAbsolute path then [] else disk.workingDirectory

def checkPath (path : String) : Except IoFault Unit :=
  if path.toList.contains '\x00' then .error .nulByte
  else if pathLimit ≤ path.utf8ByteSize then .error .nameTooLong
  else .ok ()

def walk (disk : Disk) (location : Location) : List String → Except IoFault Location
  | [] => .ok location
  | segment :: rest =>
      if Path.isSelf segment then disk.walk location rest
      else if segment = ".." then disk.walk location.tail rest
      else if nameLimit < Utf8.pathSize segment then .error .nameTooLong
      else if disk.isDirectory (segment :: location) then disk.walk (segment :: location) rest
      else if (disk.fileAt? (segment :: location)).isSome then .error .notDirectory
      else .error .missing

/-- Makes the directories that names lead through. `created` says whether one had to be made
already: the names after it are then looked at one by one, and a file among them is found to be
in the way rather than on it. -/
def createAlong (disk : Disk) (location : Location) (created : Bool) :
    List String → Except IoFault Unit × Disk
  | [] => (.ok (), disk)
  | segment :: rest =>
      if Path.isSelf segment then disk.createAlong location created rest
      else if segment = ".." then disk.createAlong location.tail created rest
      else if nameLimit < Utf8.pathSize segment then (.error .nameTooLong, disk)
      else
        let inner := segment :: location
        if disk.isDirectory inner then disk.createAlong inner created rest
        else if (disk.fileAt? inner).isSome then
          if created || rest.all (· = "") then (.error .exists, disk)
          else (.error .notDirectory, disk)
        else { disk with directories := inner :: disk.directories }.createAlong inner true rest

def createDirectories (disk : Disk) (path : String) : Except IoFault Unit × Disk :=
  match checkPath path with
  | .error fault => (.error fault, disk)
  | .ok () => disk.createAlong (disk.origin path) false (Path.segments path)

def prepare (disk : Disk) : Option String → Option (String × IoFault) × Disk
  | none => (none, disk)
  | some directory =>
      match disk.createDirectories directory with
      | (.ok (), disk) => (none, disk)
      | (.error fault, disk) => (some (directory, fault), disk)

def locate (disk : Disk) (path : String) : Except IoFault Location := do
  checkPath path
  let segments := Path.segments path
  let directory ← disk.walk (disk.origin path) segments.dropLast
  let name := segments.getLast?.getD ""
  if Path.isSelf name || name = ".." then .error .isDirectory
  else if nameLimit < Utf8.pathSize name then .error .nameTooLong
  else .ok (name :: directory)

/-- Opens the store in a file, which starts anew when the file has no bytes. -/
def openStoreFile (disk : Disk) (file : FileId) : Except StoreFault FileId × Disk :=
  if disk.isHeld file then (.error .alreadyOpen, disk)
  else
    match disk.content file with
    | .store _ => (.ok file, disk.hold file)
    | .ledger _ => (.error .invalidData, disk)
    | .raw [] => (.ok file, (disk.setStore file Store.empty).hold file)
    | .raw bytes => (.error (StoreHeader.fault bytes), disk)

def openStore (disk : Disk) (path : String) : Except StoreFault FileId × Disk :=
  match disk.locate path with
  | .error fault => (.error (.io fault), disk)
  | .ok location =>
      if disk.isDirectory location then (.error (.io .isDirectory), disk)
      else
        let (file, disk) := disk.fileFor location
        disk.openStoreFile file

def finds (disk : Disk) (path : String) : Bool :=
  let segments := Path.segments path
  let name := segments.getLast?.getD ""
  match disk.walk (disk.origin path) segments.dropLast with
  | .error _ => false
  | .ok directory =>
      path ≠ "" && (Path.isSelf name || name = ".." || disk.isThere (name :: directory))

/-- The location that the names of a path spell out, whether anything is there or not. -/
def locationOf (disk : Disk) (path : String) : Location :=
  (Path.segments path).foldl
    (fun location segment => if Path.isSelf segment then location else segment :: location)
    (disk.origin path)

/-- The disk with a file put at a path, below directories that are made for it. -/
def place (disk : Disk) (path : String) (content : FileContent) : Disk :=
  let disk := (disk.prepare (Path.namedParent? path)).2
  disk.setFile (disk.locationOf path) content

def removeTree (disk : Disk) (path : String) : Disk :=
  let location := disk.locationOf path
  { disk with
    directories := disk.directories.filter fun other => !location.isSuffixOf other
    names := disk.names.filter fun entry => !location.isSuffixOf entry.1 }

end Disk

end CensusNode
