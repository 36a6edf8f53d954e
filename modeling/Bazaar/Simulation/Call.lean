import Bazaar.Service.Basic
import Bazaar.Simulation.Event

/-!
# Calls in a simulation

What a caller can do: run a task itself, run several as parts and wait for them, sleep, use a
search field, close the service, and carry out a plan.  Everything else happens meanwhile.
-/

namespace Bazaar

namespace Simulation

/-- Events that one call may take. -/
def patience : Nat := 1000000000

/-- What a caller meets that waits although nothing is left to happen. -/
def stalled : Raised :=
  .fault (Fault.simple .runtime "nothing is left to wait for")

/-- Waits until the caller is woken. -/
def rest (s : Simulation α) : Simulation α :=
  runUntil Simulation.awake patience { s with awake := false }

/-- Runs a task as the caller itself. -/
def perform (s : Simulation α) (task : Course α) : Except Raised α × Simulation α :=
  let ended := fun (s : Simulation α) => (s.ended.lookup .caller).isSome
  let s := runUntil ended patience (s.proceed .caller task)
  (((s.ended.lookup .caller).getD (.error stalled)),
   { s with ended := s.ended.filter fun (p, _) => p != .caller })

/-- Waits for processes. -/
def await (s : Simulation α) (processes : List ProcessId) (impatient : Bool) : Simulation α :=
  if processes.isEmpty then s
  else { s with waiting := { processes := processes, impatient := impatient } }.rest

/-- Runs tasks at once as parts and waits for them; an impatient caller waits no longer than to the
first error, while the other parts go on. -/
def performAll (s : Simulation α) (tasks : List (Course α)) (impatient : Bool) :
    Except Raised (List (Except Raised α)) × Simulation α :=
  let parts := (List.range tasks.length).map fun i => ProcessId.part (s.parts + i)
  let begun := (parts.zip tasks).foldl (fun s (p, task) => s.soon 0 (.proceed p task))
    { s with parts := s.parts + tasks.length, waiting := {} }
  let s := begun.await parts impatient
  match s.waiting.raised with
  | some raised => (.error raised, s)
  | none => (.ok (parts.map fun p => (s.ended.lookup p).getD (.error stalled)), s)

/-- Sleeps. -/
def sleep (s : Simulation α) (length : Number) : Simulation α :=
  (s.pause length .wake).rest

/-- Takes the timer away that a search field holds. -/
def disarm (s : Simulation α) (field : Nat) : Simulation α :=
  match (s.fields[field]?).bind (·.coalescer.armed) with
  | none => s
  | some held =>
    { s with
      timeline := s.timeline.withdraw fun e =>
        match e with
        | .fire f submission _ => f == field && submission == held
        | _ => false }

/-- Submits work to a search field; gives the number of the submission. -/
def submit (s : Simulation α) (field : Nat) (work : Course α) : Nat × Simulation α :=
  match s.fields[field]? with
  | none => (0, s)
  | some f =>
    let c := f.coalescer.submit
    (c.generation,
     ((s.disarm field).setCoalescer field fun _ => c).schedule (s.now + seconds f.quietPeriod) 0
       (.fire field c.generation work))

/-- Cancels what a search field was asked for. -/
def cancel (s : Simulation α) (field : Nat) : Simulation α :=
  (s.disarm field).setCoalescer field Coalescer.cancel

/-- Waits for the runs of a search field that are in flight. -/
def drain (s : Simulation α) (field : Nat) : Simulation α :=
  let runs := s.inFlight.filter fun p =>
    match p with
    | .run f _ => f == field
    | _ => false
  let ended := runs.filter fun p => (s.ended.lookup p).isSome
  (ended.foldl (fun s p => s.soon 0 (.joined p)) s).await runs false

/-- Stops waiting for a submission. -/
def giveUp (s : Simulation α) (field submission : Nat) : Simulation α :=
  s.setCoalescer field fun c => c.giveUp submission

/-- Closes the service; gives what went wrong. -/
def close (s : Simulation α) : Option Raised × Simulation α :=
  let (fault, script) := s.script.close
  (fault, { s with
    script := script
    transcript := { s.transcript with closings := s.transcript.closings + 1 } })

/-- Prints a text: what is printed, or what went wrong so that nothing is.  Nothing can go wrong
with the empty text. -/
def print (s : Simulation α) (text : String) : Except String String :=
  if text.isEmpty then .ok ""
  else
    match s.printFault with
    | none => .ok text
    | some message => .error message

end Simulation

/-- What a part of a plan gives back. -/
inductive Reply where
  | result (r : SearchResult)
  | check (reachable : Bool)

namespace Reply

/-- The result of a search. -/
def result? : Reply → Option SearchResult
  | .result r => some r
  | .check _ => none

/-- The outcome of a check. -/
def check? : Reply → Option Bool
  | .result _ => none
  | .check reachable => some reachable

end Reply

namespace Simulation

/-- One search of a plan as a task. -/
def searchCourse (b : Backend) (r : Except NumberFault Request) : Course Reply :=
  (b.run r).map fun outcome => outcome.map Reply.result

/-- One check of a plan as a task. -/
def checkCourse (b : Backend) (index : String) : Course Reply :=
  (b.isReachable index).map fun outcome => outcome.map Reply.check

/-- The results among replies. -/
def results (replies : List (Except Raised Reply)) : List SearchResult :=
  replies.filterMap fun reply =>
    match reply with
    | .ok reply => reply.result?
    | .error _ => none

/-- The outcomes of checks among replies. -/
def checks (replies : List (Except Raised Reply)) : List (Except Raised Bool) :=
  replies.filterMap fun reply =>
    match reply with
    | .ok reply => reply.check?.map .ok
    | .error raised => some (.error raised)

/-- Carries out a plan. -/
def carryOut (s : Simulation Reply) (b : Backend) : Plan β → Except Raised β × Simulation Reply
  | .answer a => (.ok a, s)
  | .alone request finish =>
    match s.perform (searchCourse b request) with
    | (.ok (.result r), s) => (.ok (finish r), s)
    | (.ok (.check _), s) => (.error stalled, s)
    | (.error raised, s) => (.error raised, s)
  | .together before requests finish =>
    match (s.reportAll before).performAll (requests.map (searchCourse b)) true with
    | (.error raised, s) => (.error raised, s)
    | (.ok replies, s) =>
      let (entries, a) := finish (results replies)
      (.ok a, s.reportAll entries)
  | .checks indices finish =>
    match s.performAll (indices.map (checkCourse b)) false with
    | (.error raised, s) => (.error raised, s)
    | (.ok replies, s) =>
      let (entries, a) := finish (checks replies)
      (.ok a, s.reportAll entries)

end Simulation

end Bazaar
