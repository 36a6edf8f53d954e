import Bazaar.Command.Basic
import Bazaar.Log.Journal
import Bazaar.Service.Setup
import Bazaar.Simulation.Call

/-!
# Runs

One command from its first line in the log to its document: the writer and the service are set up,
the operation runs, the service is closed whatever happened, and a document is printed only if
nothing was raised.  A document that cannot be printed aborts the run too.
-/

namespace Bazaar

/-- What a run does with the service: it gives a flag or the wording of an error, and the writer
with all that was written. -/
abbrev Operation :=
  Service → Backend → Render.Writer → Simulation Reply →
    Except String Bool × Render.Writer × Simulation Reply

/-- A finished run: a flag unless it was aborted, what it printed, and the simulation with its
log. -/
structure Run where
  succeeded : Option Bool
  printed : String := ""
  simulation : Simulation Reply

namespace Run

/-- A run that is aborted with an error. -/
def aborted (action message : String) (s : Simulation Reply) : Run where
  succeeded := none
  simulation := s.report ⟨.error, action ++ " failed: " ++ message⟩

/-- Closes the service; a failure to do so is only reported. -/
def close (b : Backend) (s : Simulation Reply) : Simulation Reply :=
  match s.close with
  | (none, s) => s
  | (some raised, s) => s.report (Service.closeEntry b.name raised)

variable [Platform]

/-- Runs an operation with a writer. -/
def operate (settings : Config.Settings) (action : String) (operation : Operation)
    (writer : Render.Writer) (s : Simulation Reply) : Run :=
  match settings.setUp with
  | .error fault => aborted action fault.message s
  | .ok (engine, service) =>
    let (outcome, writer, s) := operation service engine.backend writer s
    let s := close engine.backend s
    match outcome with
    | .error message => aborted action message s
    | .ok succeeded =>
      match writer.finish Platform.printedLevels with
      | .error fault => aborted action fault.refusal.message s
      | .ok (_, text) =>
        match s.print text with
        | .error message => aborted action message s
        | .ok printed => ⟨some succeeded, printed, s⟩

/-- Runs an operation with the writer of a format. -/
def ofOperation (settings : Config.Settings) (action format : String) (operation : Operation)
    (s : Simulation Reply) : Run :=
  match Render.Writer.ofFormat format with
  | .error fault => aborted action fault.message s
  | .ok writer => operate settings action operation writer s

/-- The operation of a command. -/
def operation (c : Command) : Operation := fun service backend writer s =>
  let s := s.reportAll c.before
  match c.plan service with
  | .error fault => (.error fault.message, writer, s)
  | .ok plan =>
    match s.carryOut backend plan with
    | (.error raised, s) => (.error raised.text, writer, s)
    | (.ok outcome, s) =>
      match writer.write Platform.takenLevels outcome.output with
      | .error fault => (.error fault.refusal.message, writer, s)
      | .ok (writer, entries) =>
        (.ok outcome.succeeded, writer, (s.reportAll entries).reportAll outcome.after)

/-- Runs a command. -/
def ofCommand (settings : Config.Settings) (format : String) (c : Command)
    (s : Simulation Reply) : Run :=
  ofOperation settings c.name.word format (operation c) s

omit [Platform] in
/-- The journal of a run. -/
def journal (settings : Config.Settings) (disk : Disk) (stamp : Stamp) (action : String) :
    Except Journal.Fault Journal :=
  Journal.start disk stamp settings.log.level action settings.log.toFile
    settings.log.directory.label

omit [Platform] in
/-- The entries of a run in order. -/
def entries (r : Run) : List LogEntry :=
  r.simulation.transcript.log.map (·.2)

end Run

end Bazaar
