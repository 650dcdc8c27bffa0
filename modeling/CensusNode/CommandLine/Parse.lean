import CensusNode.CommandLine.Grammar

/-!
Reading a command line. Words are taken one by one at the level of the subcommands named so far.
A word that names a subcommand opens the next level, and what is wrong there counts before what
is still open here. An option that takes a value is committed when the next one begins; options
of every level count wherever they stand, the one on the deepest level first, and a value from
the command line counts before one from the environment.
-/

namespace CensusNode.CommandLine

abbrev Given := List (Argument × List String)

abbrev Environment := List (String × String)

/-- What is known of a level while its words are read: the arguments committed, the one still
open, whether that one waits for its value, whether options have ended, and the positional
arguments still to come. -/
structure Scan where
  given : Given
  pending : Option (Argument × List String)
  awaiting : Bool
  trailing : Bool
  slots : List Argument

def Scan.start (level : Level) : Scan := ⟨[], none, false, false, level.positionals⟩

/-- The given arguments with one more. Only keys may be given again. -/
def commit (given : Given) (argument : Argument) (values : List String) : Except Refusal Given :=
  if values = [] && !argument.isFlag then .error .invalidValue
  else if argument ≠ .keys && (given.lookup argument).isSome then .error .argumentConflict
  else
    match argument.checkAll values with
    | .ok () => .ok (given ++ [(argument, values)])
    | .error refusal => .error refusal

namespace Scan

def settled (scan : Scan) : Except Refusal Given :=
  match scan.pending with
  | none => .ok scan.given
  | some (argument, values) => commit scan.given argument values

def complete (scan : Scan) (argument : Argument) (values : List String) : Except Refusal Scan := do
  let given ← scan.settled
  let given ← commit given argument values
  .ok { scan with given, pending := none, awaiting := false }

def begin (scan : Scan) (argument : Argument) (values : List String) (awaiting : Bool) :
    Except Refusal Scan := do
  let given ← scan.settled
  .ok { scan with given, pending := some (argument, values), awaiting }

/-- A refusal in spite of what the open argument is worth, short of a crash. -/
def refuse (scan : Scan) (refusal : Refusal) : Except Refusal Scan :=
  match scan.settled with
  | .error .crashed => .error .crashed
  | _ => .error refusal

/-- The refusal that help or the version stand for, once the open argument is committed. -/
def request (scan : Scan) (refusal : Refusal) : Except Refusal Scan := do
  let _ ← scan.settled
  .error refusal

end Scan

def splitLong (chars : List Char) : String × Option String :=
  let name := String.ofList (chars.takeWhile (· ≠ '='))
  match chars.dropWhile (· ≠ '=') with
  | [] => (name, none)
  | _ :: value => (name, some (String.ofList value))

def readLong (level : Level) (scan : Scan) (chars : List Char) : Except Refusal Scan :=
  let (name, attached) := splitLong chars
  if name = "help" || (name = "version" && level = .top) then
    match attached with
    | some _ => scan.refuse .tooManyValues
    | none => scan.request (if name = "help" then .displayHelp else .displayVersion)
  else
    match level.option? name with
    | none => scan.refuse .unknownArgument
    | some argument =>
        match attached with
        | some value =>
            if argument.isFlag then scan.refuse .tooManyValues else scan.complete argument [value]
        | none =>
            if argument.isFlag then scan.complete argument [] else scan.begin argument [] true

/-- Reads a group of short options. Only those for help and the version exist. -/
def readShort (level : Level) (scan : Scan) : List Char → Except Refusal Scan
  | 'h' :: _ => scan.request .displayHelp
  | 'V' :: _ =>
      if level = .top then scan.request .displayVersion else scan.refuse .unknownArgument
  | _ => scan.refuse .unknownArgument

def isSubcommandName (level : Level) (word : String) : Bool :=
  level.subcommands ≠ [] && (word = "help" || (level.subcommands.lookup word).isSome)

def readPositional (level : Level) (scan : Scan) (word : String) : Except Refusal Scan :=
  match scan.slots with
  | [] =>
      if level.subcommands = [] then scan.refuse .unknownArgument
      else if scan.trailing && isSubcommandName level word then scan.refuse .unknownArgument
      else scan.refuse .invalidSubcommand
  | .keys :: _ =>
      match scan.pending with
      | some (.keys, values) => .ok { scan with pending := some (.keys, values ++ [word]) }
      | _ => scan.begin .keys [word] false
  | slot :: others => do
      let scan ← scan.begin slot [word] false
      .ok { scan with slots := others }

inductive Reading where
  | next (scan : Scan)
  | enter (level : Level)
  | help
  | refused (refusal : Refusal)

def Reading.of : Except Refusal Scan → Reading
  | .ok scan => .next scan
  | .error refusal => .refused refusal

def readWordAt (level : Level) (scan : Scan) (word : String) : Reading :=
  if scan.trailing then .of (readPositional level scan word)
  else if !scan.awaiting && isSubcommandName level word then
    match level.subcommands.lookup word with
    | some inner => .enter inner
    | none => .help
  else if word = "--" then .next { scan with trailing := true }
  else
    match word.toList with
    | '-' :: '-' :: chars => .of (readLong level scan chars)
    | '-' :: char :: chars => .of (readShort level scan (char :: chars))
    | _ =>
        if scan.awaiting then
          .next { scan with
            pending := scan.pending.map fun pending => (pending.1, pending.2 ++ [word])
            awaiting := false }
        else .of (readPositional level scan word)

def helpAbout : Option Level → List String → Refusal
  | _, [] => .displayHelp
  | none, _ :: _ => .invalidSubcommand
  | some level, word :: rest =>
      if isSubcommandName level word then helpAbout (level.subcommands.lookup word) rest
      else .invalidSubcommand

/-- Checks the variables of the options that are not given at a level, and tells whether there
are any. -/
def checkEnvironment (environment : Environment) (given : Given) :
    List (String × String × Argument) → Except Refusal Bool
  | [] => .ok false
  | (_, name, argument) :: rest =>
      match environment.lookup name with
      | none => checkEnvironment environment given rest
      | some value =>
          if (given.lookup argument).isSome then checkEnvironment environment given rest
          else do
            argument.check value
            let _ ← checkEnvironment environment given rest
            .ok true

def value? (given : Given) (argument : Argument) : Option String :=
  (given.lookup argument).bind List.head?

def required (given : Given) (argument : Argument) : Except Refusal String :=
  match value? given argument with
  | some value => .ok value
  | none => .error .missingRequiredArgument

def keysOf (given : Given) : List String :=
  given.flatMap fun entry => if entry.1 = .keys then entry.2 else []

def requiredId (given : Given) : Except Refusal CensusId := do
  readId (← required given .censusId)

def Leaf.command (given : Given) : Leaf → Except Refusal Command
  | .new => .ok (.census .new)
  | .close => do .ok (.census (.close (← requiredId given)))
  | .root => do .ok (.census (.root (← requiredId given)))
  | .info => do .ok (.census (.info (← requiredId given)))
  | .addKeys => do
      let id ← requiredId given
      let _ ← required given .keys
      .ok (.census (.addKeys id (keysOf given) (given.lookup .background).isSome))
  | .setStatus => do
      let id ← requiredId given
      .ok (.census (.setStatus id (← required given .message)))
  | .list => do
      let all := (given.lookup .all).isSome
      let cursor := value? given .cursor
      if all && (cursor.isSome || (value? given .limit).isSome) then .error .argumentConflict
      else
        let root ← required given .censusRoot
        let limit ← readNumber ((value? given .limit).getD "0")
        .ok (.votes (.list root cursor limit all))
  | .store => do
      let root ← required given .censusRoot
      let index ← required given .index
      let signature ← required given .signature
      let publicKey ← required given .publicKey
      let merkleProof ← required given .merkleProof
      let index ← readWord index
      .ok (.votes (.store root index signature publicKey merkleProof
        ((value? given .vote).getD "")))
  | .get => do .ok (.votes (.get (← readWord (← required given .voteIndex))))
  | .schema => .ok .schema

def finish (environment : Environment) (level : Level) (scan : Scan) :
    Except Refusal (Command × List Given) := do
  let given ← scan.settled
  let used ← checkEnvironment environment given globalOptions
  match level with
  | .leaf leaf => .ok (← leaf.command given, [given])
  | _ =>
      if given = [] && !used then .error .displayHelpOnMissing else .error .missingSubcommand

/-- What a level amounts to around the outcome of the level that it opened. -/
def finishAround (environment : Environment) (scan : Scan)
    (inner : Except Refusal (Command × List Given)) : Except Refusal (Command × List Given) := do
  let (command, levels) ← inner
  let given ← scan.settled
  let _ ← checkEnvironment environment given globalOptions
  .ok (command, given :: levels)

/-- Reads words at a level: the command, and the arguments of all levels from this one inward. -/
def readWords (environment : Environment) (level : Level) (scan : Scan) :
    List String → Except Refusal (Command × List Given)
  | [] => finish environment level scan
  | word :: rest =>
      match readWordAt level scan word with
      | .next scan => readWords environment level scan rest
      | .enter inner =>
          finishAround environment scan (readWords environment inner (Scan.start inner) rest)
      | .help => .error (helpAbout (some level) rest)
      | .refused refusal => .error refusal

/-- The value of an option of every level: the innermost given one, else the environment's. -/
def optionValue? (environment : Environment) (levels : List Given) (argument : Argument) :
    Option String :=
  match levels.reverse.findSome? fun given => value? given argument with
  | some value => some value
  | none =>
      (globalOptions.find? fun entry => entry.2.2 = argument).bind fun entry =>
        environment.lookup entry.2.1

def nodeOptions (environment : Environment) (levels : List Given) : Except Refusal NodeOptions := do
  let value := optionValue? environment levels
  let busyTimeout ← match value .busyTimeout with
    | none => .ok none
    | some text => (readDuration text).map some
  let logFormat ← match value .logFormat with
    | none => .ok LogFormat.auto
    | some text => readLogFormat text
  .ok { dataDirectory := value .dataDirectory, controlFile := value .controlFile
        censusDirectory := value .censusDirectory, ledgerFile := value .ledgerFile
        busyTimeout, logFormat }

structure Invocation where
  options : NodeOptions
  command : Command
deriving DecidableEq, Repr

def parse (words : List String) (environment : Environment) : Except Refusal Invocation := do
  let (command, levels) ← readWords environment .top (Scan.start .top) words
  let options ← nodeOptions environment levels
  .ok { options, command }

end CensusNode.CommandLine
