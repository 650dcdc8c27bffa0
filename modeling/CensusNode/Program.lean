import CensusNode.CommandLine.Parse
import CensusNode.Config.Schema
import CensusNode.Json.Printer

/-!
One run of the program: from its arguments, environment, disk and clock to its exit status, what
it prints, and the disk it leaves.
-/

namespace CensusNode.Program

/-- How a run ends. Standard output and standard error hold one JSON value each, if any. -/
structure Result where
  exitCode : Nat
  output : Option Json
  error : Option Json

def success (output : Json) : Result := ⟨0, some output, none⟩

def failure (error : Json) : Result := ⟨1, none, some error⟩

def crashed : Result := ⟨101, none, none⟩

def refused (refusal : CommandLine.Refusal) : Result :=
  if refusal = .crashed then crashed else ⟨if refusal.isRequest then 0 else 2, none, none⟩

/-- The end of a run whose command was carried out. A result is printed with its members in the
order of their names. -/
def ofOutcome : Except CommandError Json → Result
  | .ok output => success output.sorted
  | .error error => if error.crashes then crashed else failure error.view

def withService (disk : Disk) (config : NodeConfig)
    (action : Service → Except CommandError Json × Service) : Result × Disk :=
  match Service.openNode disk config with
  | (.crashed, disk) => (crashed, disk)
  | (.failed error, disk) => (ofOutcome (.error (.service error)), disk)
  | (.done service, _) =>
      let (outcome, service) := action service
      (ofOutcome outcome, service.close)

def invoke (disk : Disk) (now : Instant) (invocation : CommandLine.Invocation) : Result × Disk :=
  match invocation.command with
  | .schema => (success Schema.node, disk)
  | command =>
      match invocation.options.nodeConfig with
      | .error error => (failure (View.error .config error.message), disk)
      | .ok config =>
          withService disk config fun service =>
            match command with
            | .census action => Command.runCensus service now action
            | .votes action => Command.runVotes service now action
            | .schema => (.ok .null, service)

def run (arguments : List String) (environment : CommandLine.Environment) (disk : Disk)
    (now : Instant) : Result × Disk :=
  match CommandLine.parse arguments environment with
  | .error refusal => (refused refusal, disk)
  | .ok invocation => invoke disk now invocation

end CensusNode.Program
