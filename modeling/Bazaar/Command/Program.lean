import Bazaar.Command.Line
import Bazaar.Command.Run

/-!
# The program

A command line carried out from its arguments to an exit code, given the files, the environment and
the service it can reach.
-/

namespace Bazaar

/-- What the program finds around it. -/
structure Surroundings where
  disk : Disk
  environment : Config.Environment
  stamp : Stamp
  simulation : Simulation Reply

/-- How the program ends: its exit code, what it printed, what it wrote to files, the errors that
it let through, and the simulation behind it. -/
structure Completion where
  exitCode : Nat
  printed : String := ""
  errors : String := ""
  files : List (String × String) := []
  escape : Option Refusal := none
  simulation : Simulation Reply

namespace Program

/-- Ends with an error that is let through. -/
def letThrough (w : Surroundings) (kind : FaultClass) (message : String) : Completion where
  exitCode := 1
  escape := some ⟨kind, message⟩
  simulation := w.simulation

/-- Ends with a fault of usage. -/
def refuse (w : Surroundings) (path usage : String) (fault : UsageFault) : Completion where
  exitCode := 2
  errors := CommandLine.faultText path usage fault
  simulation := w.simulation

/-- Ends with help. -/
def help (w : Surroundings) (usage : String) : Completion where
  exitCode := 0
  printed := "Usage: " ++ usage ++ "\n"
  simulation := w.simulation

/-- Ends with a configuration that cannot be loaded. -/
def refuseConfig (w : Surroundings) (fault : Config.LoadFault) : Completion :=
  if fault.kind.isRefusal then
    { exitCode := 1
      errors := "Error: Invalid config: " ++ fault.message ++ "\n"
      simulation := w.simulation }
  else letThrough w fault.kind fault.message

/-- Ends with a finished run. -/
def complete (j : Journal) (r : Run) : Completion :=
  let j := j.writeAll r.entries
  match r.succeeded with
  | none =>
    { exitCode := 1
      errors := j.console ++ "Aborted!\n"
      files := j.files
      simulation := r.simulation }
  | some succeeded =>
    { exitCode := if succeeded then 0 else 1
      printed := r.printed
      errors := j.console
      files := j.files
      simulation := r.simulation }

variable [Platform]

/-- Carries out a command. -/
def perform (w : Surroundings) (settings : Config.Settings) (c : Command) (format : String) :
    Completion :=
  match Run.journal settings w.disk w.stamp c.name.word with
  | .error fault => letThrough w fault.kind fault.message
  | .ok j => complete j (Run.ofCommand settings format c w.simulation)

/-- Carries out a command line. -/
def run (w : Surroundings) (arguments : List String) : Completion :=
  match CommandLine.readHead w.disk arguments with
  | .error .nullByte => letThrough w .value UsageFault.nullByte.message
  | .error fault => refuse w CommandLine.programName CommandLine.usage fault
  | .ok .help => help w CommandLine.usage
  | .ok (.want head) =>
    match Config.load w.disk w.environment head.config Config.defaultPath with
    | .error fault => refuseConfig w fault
    | .ok settings =>
      let usage := CommandLine.commandUsage head.command
      match CommandLine.readCommand head.command head.arguments with
      | .error fault =>
        refuse w (CommandLine.programName ++ " " ++ head.command.word) usage fault
      | .ok .help => help w usage
      | .ok (.want (c, format)) => perform w settings c format

end Program

end Bazaar
