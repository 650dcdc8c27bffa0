import CensusNode.Text.Hex
import CensusNode.Text.Utf8

/-!
Where the ledger of a path lies and how it is to be worked on. A path that starts with `file:` is
an address: an authority after two slashes has to be empty or the local host, a question mark ends
the name of the file and starts the options, a number sign ends the address, and a percent sign
with two hexadecimal digits stands for a byte. Any other path stands for itself.
-/

namespace CensusNode

inductive AddressFault where
  | authority (name : String)
  | accessMode (name : String)
  | accessModeRefused (name : String)
  | cacheMode (name : String)
  | fileSystem (name : String)
deriving DecidableEq, Repr

def AddressFault.message : AddressFault → String
  | .authority name => "invalid uri authority: " ++ name
  | .accessMode name => "no such access mode: " ++ name
  | .accessModeRefused name => "access mode not allowed: " ++ name
  | .cacheMode name => "no such cache mode: " ++ name
  | .fileSystem name => "no such vfs: " ++ name

inductive AccessMode where
  | readOnly
  | readWrite
  | create
  /-- There is no file. -/
  | memory
deriving DecidableEq, Repr

namespace AccessMode

def ofName? (name : String) : Option AccessMode :=
  if name = "ro" then some .readOnly
  else if name = "rw" then some .readWrite
  else if name = "rwc" then some .create
  else if name = "memory" then some .memory
  else none

def rank : AccessMode → Nat
  | .readOnly => 1
  | .readWrite => 2
  | .create => 6
  | .memory => 128

/-- Whether a mode may be narrowed down to another one. Giving up the file is always allowed. -/
def permits (current next : AccessMode) : Bool := next = .memory || next.rank ≤ current.rank

end AccessMode

inductive FileSystem where
  | standard
  /-- Without any lock. -/
  | lockless
  /-- With a directory beside the file as its lock. -/
  | lockDirectory
  /-- For one process at a time. -/
  | exclusive
  /-- In no file. -/
  | memory
deriving DecidableEq, Repr

def FileSystem.ofName? (name : String) : Option FileSystem :=
  if name = "unix" then some .standard
  else if name = "unix-none" then some .lockless
  else if name = "unix-dotfile" then some .lockDirectory
  else if name = "unix-excl" then some .exclusive
  else if name = "memdb" then some .memory
  else none

structure LedgerOptions where
  access : AccessMode
  fileSystem : FileSystem
  /-- The file never changes while it is open. -/
  immutable : Bool
  unlocked : Bool
  /-- The index of the log is not to be written. -/
  indexReadOnly : Bool
  /-- A file that a new one takes its permissions from. -/
  permissionsOf : Option String
deriving DecidableEq, Repr

namespace LedgerOptions

def defaults : LedgerOptions := ⟨.create, .standard, false, false, false, none⟩

/-- Whether other processes can be kept out of the file one by one. -/
def locks (options : LedgerOptions) : Bool :=
  !options.unlocked && options.fileSystem ≠ .lockless && options.fileSystem ≠ .lockDirectory

def readOnly (options : LedgerOptions) : Bool := options.access = .readOnly || options.immutable

end LedgerOptions

inductive LedgerPlace where
  /-- In no file: it lasts as long as it is open. -/
  | fleeting (readOnly : Bool)
  | file (path : String) (options : LedgerOptions)
deriving DecidableEq, Repr

namespace LedgerAddress

def scheme : List Char := "file:".toList

def escapedByte? (byte : UInt8) : Bytes → Option UInt8
  | high :: low :: _ => do
      let tens ← Hex.digitValue? high
      let ones ← Hex.digitValue? low
      if byte = 0x25 then some (UInt8.ofNat (16 * tens + ones)) else none
  | _ => none

/-- The bytes that a part of an address spells out. A null byte ends them. -/
def unescape : Bytes → Bytes
  | [] => []
  | byte :: rest =>
      match escapedByte? byte rest with
      | none => byte :: unescape rest
      | some value => if value = 0 then [] else value :: unescape (rest.drop 2)
termination_by bytes => bytes.length
decreasing_by all_goals simp only [List.length_cons, List.length_drop]; omega

def cut (mark : UInt8) (bytes : Bytes) : Bytes × Bytes :=
  (bytes.takeWhile (· ≠ mark), (bytes.dropWhile (· ≠ mark)).drop 1)

def fields (mark : UInt8) : Bytes → List Bytes
  | [] => [[]]
  | byte :: rest =>
      if byte = mark then [] :: fields mark rest
      else
        match fields mark rest with
        | [] => [[byte]]
        | field :: more => (byte :: field) :: more

abbrev Settings := List (String × Bytes)

/-- The settings after the question mark. One without a name is none. -/
def settings (query : Bytes) : Settings :=
  ((fields 0x26 query).map fun field =>
    let (name, value) := cut 0x3d field
    (Utf8.shown (unescape name), unescape value)).filter (·.1 ≠ "")

def cacheModes : List String := ["shared", "private"]

/-- The access mode that the settings narrow another one down to, unless they name a mode that
there is not or that permits more. -/
def narrow (current : AccessMode) : Settings → Except AddressFault AccessMode
  | [] => .ok current
  | (name, value) :: rest =>
      let text := Utf8.shown value
      if name = "mode" then
        match AccessMode.ofName? text with
        | none => .error (.accessMode text)
        | some next =>
            if current.permits next then narrow next rest else .error (.accessModeRefused text)
      else if name = "cache" ∧ text ∉ cacheModes then .error (.cacheMode text)
      else narrow current rest

def fileSystemOf (settings : Settings) : Except AddressFault FileSystem :=
  match (settings.filter (·.1 = "vfs")).getLast? with
  | none => .ok .standard
  | some (_, value) =>
      match FileSystem.ofName? (Utf8.shown value) with
      | some fileSystem => .ok fileSystem
      | none => .error (.fileSystem (Utf8.shown value))

def leadingNumber (base : Nat) (digits : List Nat) : Nat :=
  (digits.takeWhile (· < base)).foldl (fun number digit => base * number + digit) 0

/-- The number that a value starts with. One that does not fit a signed 32-bit word is zero. -/
def numberOf (value : Bytes) : Nat :=
  let digits (bytes : Bytes) : List Nat := bytes.map fun byte => (Hex.digitValue? byte).getD 16
  let number := match value with
    | 0x30 :: 0x78 :: rest | 0x30 :: 0x58 :: rest => leadingNumber 16 (digits rest)
    | _ => leadingNumber 10 (digits value)
  if number < 2147483648 then number else 0

def isOn (value : Bytes) : Bool :=
  match value.head? with
  | some first =>
      if 0x30 ≤ first && first ≤ 0x39 then numberOf value % 256 ≠ 0
      else ["on", "yes", "true"].contains (Utf8.shown value).toLower
  | none => false

def hasOn (settings : Settings) (name : String) : Bool :=
  match settings.lookup name with
  | some value => isOn value
  | none => false

def optionsOf (settings : Settings) : Except AddressFault LedgerOptions := do
  let access ← narrow .create settings
  let fileSystem ← fileSystemOf settings
  .ok
    { access, fileSystem
      immutable := hasOn settings "immutable"
      unlocked := hasOn settings "nolock"
      indexReadOnly := hasOn settings "readonly_shm"
      permissionsOf := (settings.lookup "modeof").map Utf8.pathText }

def placeOf (path : String) (options : LedgerOptions) : LedgerPlace :=
  if path = "" ∨ path = ":memory:" ∨ options.access = .memory then
    .fleeting (options.access = .readOnly)
  else if options.fileSystem = .memory then .fleeting options.readOnly
  else .file path options

/-- An address without its authority, which has to be of this host. -/
def skipAuthority : List Char → Except AddressFault (List Char)
  | '/' :: '/' :: rest =>
      let name := String.ofList (rest.takeWhile (· ≠ '/'))
      if name = "" ∨ name = "localhost" then .ok (rest.dropWhile (· ≠ '/'))
      else .error (.authority name)
  | chars => .ok chars

def place (path : String) : Except AddressFault LedgerPlace :=
  if scheme.isPrefixOf path.toList then do
    let chars ← skipAuthority (path.toList.drop scheme.length)
    let (name, query) := cut 0x3f (cut 0x23 (utf8Bytes (String.ofList chars))).1
    let options ← optionsOf (settings query)
    .ok (placeOf (Utf8.pathText (unescape name)) options)
  else .ok (placeOf path LedgerOptions.defaults)

end LedgerAddress

end CensusNode
