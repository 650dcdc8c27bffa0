import CensusNode.Command
import CensusNode.CommandLine.Options

/-!
The grammar of the command line: the arguments there are, the levels of subcommands with the
arguments each takes, and which values an argument accepts.
-/

namespace CensusNode.CommandLine

/-- Why a command line is refused, or what it asks for instead of a command. A value that brings
its reader down brings the whole program down. -/
inductive Refusal where
  | displayHelp
  | displayVersion
  | displayHelpOnMissing
  | missingSubcommand
  | invalidSubcommand
  | unknownArgument
  | missingRequiredArgument
  | invalidValue
  | valueValidation
  | argumentConflict
  | tooManyValues
  | crashed
deriving DecidableEq, Repr

def Refusal.name : Refusal → String
  | .displayHelp => "DisplayHelp"
  | .displayVersion => "DisplayVersion"
  | .displayHelpOnMissing => "DisplayHelpOnMissingArgumentOrSubcommand"
  | .missingSubcommand => "MissingSubcommand"
  | .invalidSubcommand => "InvalidSubcommand"
  | .unknownArgument => "UnknownArgument"
  | .missingRequiredArgument => "MissingRequiredArgument"
  | .invalidValue => "InvalidValue"
  | .valueValidation => "ValueValidation"
  | .argumentConflict => "ArgumentConflict"
  | .tooManyValues => "TooManyValues"
  | .crashed => "Crashed"

def Refusal.isRequest : Refusal → Bool
  | .displayHelp | .displayVersion => true
  | _ => false

inductive Argument where
  | dataDirectory
  | controlFile
  | censusDirectory
  | ledgerFile
  | busyTimeout
  | logFormat
  | background
  | cursor
  | limit
  | all
  | index
  | signature
  | publicKey
  | merkleProof
  | vote
  | censusId
  | keys
  | message
  | censusRoot
  | voteIndex
deriving DecidableEq, Repr

def Argument.isFlag : Argument → Bool
  | .background | .all => true
  | _ => false

/-- The options of every level, with their long names and environment variables. -/
def globalOptions : List (String × String × Argument) :=
  [("data", "ZKCENSUS__DATA", .dataDirectory),
   ("control-db", "ZKCENSUS__CONTROL_DB", .controlFile),
   ("census-dir", "ZKCENSUS__CENSUS_DIR", .censusDirectory),
   ("ledger-file", "ZKCENSUS__LEDGER_FILE", .ledgerFile),
   ("busy-timeout", "ZKCENSUS__BUSY_TIMEOUT", .busyTimeout),
   ("log-format", "ZKCENSUS__LOG_FORMAT", .logFormat)]

inductive Leaf where
  | new
  | close
  | root
  | info
  | addKeys
  | setStatus
  | list
  | store
  | get
  | schema
deriving DecidableEq, Repr

inductive Level where
  | top
  | census
  | votes
  | config
  | leaf (leaf : Leaf)
deriving DecidableEq, Repr

namespace Level

def subcommands : Level → List (String × Level)
  | .top => [("census", .census), ("votes", .votes), ("config", .config)]
  | .census =>
      [("new", .leaf .new), ("close", .leaf .close), ("root", .leaf .root), ("info", .leaf .info),
       ("add-keys", .leaf .addKeys), ("set-status", .leaf .setStatus)]
  | .votes => [("list", .leaf .list), ("store", .leaf .store), ("get", .leaf .get)]
  | .config => [("schema", .leaf .schema)]
  | .leaf _ => []

def ownOptions : Level → List (String × Argument)
  | .leaf .addKeys => [("background", .background)]
  | .leaf .list => [("cursor", .cursor), ("limit", .limit), ("all", .all)]
  | .leaf .store =>
      [("index", .index), ("signature", .signature), ("public-key", .publicKey),
       ("merkle-proof", .merkleProof), ("vote", .vote)]
  | _ => []

def option? (level : Level) (name : String) : Option Argument :=
  (level.ownOptions ++ globalOptions.map fun entry => (entry.1, entry.2.2)).lookup name

/-- The positional arguments of a level in order. The last one of all may be repeated when it
holds keys. -/
def positionals : Level → List Argument
  | .leaf .close | .leaf .root | .leaf .info => [.censusId]
  | .leaf .addKeys => [.censusId, .keys]
  | .leaf .setStatus => [.censusId, .message]
  | .leaf .list | .leaf .store => [.censusRoot]
  | .leaf .get => [.voteIndex]
  | _ => []

end Level

def wordLimit : Nat := 18446744073709551615

def readNumber (text : String) : Except Refusal Nat :=
  match Decimal.decode wordLimit text with
  | .ok number => .ok number
  | .error _ => .error .valueValidation

def readWord (text : String) : Except Refusal UInt64 :=
  match readNumber text with
  | .ok number => .ok (UInt64.ofNat number)
  | .error refusal => .error refusal

def readId (text : String) : Except Refusal CensusId :=
  match CensusId.parse text with
  | .ok id => .ok id
  | .error _ => .error .valueValidation

def readDuration (text : String) : Except Refusal Duration :=
  match DurationText.decode text with
  | .ok duration => .ok duration
  | .error .carry => .error .crashed
  | .error _ => .error .valueValidation

def readLogFormat (text : String) : Except Refusal LogFormat :=
  match LogFormat.ofName? text with
  | some format => .ok format
  | none => .error .invalidValue

def Argument.check (argument : Argument) (text : String) : Except Refusal Unit :=
  match argument with
  | .dataDirectory => if text = "" then .error .invalidValue else .ok ()
  | .busyTimeout => (readDuration text).map fun _ => ()
  | .logFormat => (readLogFormat text).map fun _ => ()
  | .limit | .index | .voteIndex => (readNumber text).map fun _ => ()
  | .censusId => (readId text).map fun _ => ()
  | _ => .ok ()

def Argument.checkAll (argument : Argument) : List String → Except Refusal Unit
  | [] => .ok ()
  | text :: rest =>
      match argument.check text with
      | .ok () => argument.checkAll rest
      | .error refusal => .error refusal

end CensusNode.CommandLine
