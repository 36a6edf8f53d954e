import Bazaar.Calendar.Epoch
import Bazaar.Command.Program
import Bazaar.Platform.Usual
import Std.Time.DateTime.Timestamp

/-!
# The executable

Gathers what the program needs from the machine, carries the command line out, and writes what
comes of it.  The executable has no network of its own: every request is refused.
-/

namespace Bazaar.Executable

/-- The content of a file, if it can be read. -/
def content? (path : Path) : IO (Option (Path × String)) := do
  try
    let text ← IO.FS.readFile path.text
    return some (path.resolve, text)
  catch _ => return none

/-- The files that a command line may need. -/
def diskFor (arguments : List String) : IO Disk := do
  let named :=
    match Arguments.read [CommandLine.configOption] false arguments with
    | .ok a => (a.value? CommandLine.configOption).toList.map Path.ofString
    | .error _ => []
  let found ← (Config.defaultPath :: named).mapM content?
  return { files := found.filterMap id }

/-- The environment variables that a command line may need. -/
def environmentFor [Platform] (disk : Disk) (arguments : List String) :
    IO Config.Environment := do
  match CommandLine.readHead disk arguments with
  | .ok (.want head) =>
    match Config.load disk [] head.config Config.defaultPath with
    | .ok settings =>
      let name := settings.connection.keyVariable.value
      let value ← IO.getEnv name
      return (value.map fun v => (name, v)).toList
    | .error _ => return []
  | _ => return []

/-- The time of the machine. -/
def stamp : IO Stamp := do
  let now ← Std.Time.Timestamp.now
  match Calendar.ofSeconds? now.toSecondsSinceUnixEpoch.val 0 with
  | some t => return Stamp.ofDateTime t
  | none => return ⟨"", ""⟩

/-- Numbers between -1 and 1. -/
def draws : Nat → IO (List Float)
  | 0 => return []
  | count + 1 => do
    let n ← IO.rand 0 2000000
    let rest ← draws count
    return (n.toFloat / 1000000 - 1) :: rest

/-- What every request meets. -/
def refusal : Outcome where
  delivery := .raised (.fault (Fault.simple .connect "All connection attempts failed"))

/-- Writes the files of a journal. -/
def writeFiles : List (String × String) → IO Unit
  | [] => return ()
  | (path, text) :: rest => do
    let directory := { Path.ofString path with parts := (Path.ofString path).parts.dropLast }
    IO.FS.createDirAll directory.text
    IO.FS.writeFile path text
    writeFiles rest

end Bazaar.Executable

open Bazaar in
/-- Carries a command line out. -/
def main (arguments : List String) : IO UInt32 := do
  let _ : Platform := .usual
  let disk ← Executable.diskFor arguments
  let environment ← Executable.environmentFor disk arguments
  let stamp ← Executable.stamp
  let draws ← Executable.draws 64
  let script : Script := { fallback := Executable.refusal }
  let simulation : Simulation Reply := { script := script, draws := draws }
  let c := Program.run ⟨disk, environment, stamp, simulation⟩ arguments
  Executable.writeFiles c.files
  (← IO.getStderr).putStr c.errors
  (← IO.getStdout).putStr c.printed
  match c.escape with
  | some e => (← IO.getStderr).putStr (e.message ++ "\n")
  | none => pure ()
  return UInt32.ofNat c.exitCode
