import Bazaar.Coalescer
import Bazaar.Simulation.Script
import Bazaar.Simulation.Timeline

/-!
# What happens in a simulation

Tasks run as processes in virtual time against a scripted service.  A process runs without a break
until it waits: for time to pass, for a delivery, or for nothing more.  This module says what each
event does; what the caller does between events is in the module of calls.
-/

namespace Bazaar

/-- The processes: the caller itself, parts that the caller waits for together, and the runs of
search fields. -/
inductive ProcessId where
  | caller
  | part (number : Nat)
  | run (field submission : Nat)
  deriving DecidableEq, Repr

/-- The task of a process; it may end with an error. -/
abbrev Course (α : Type) := Task (Except Raised α)

/-- What can happen. -/
inductive Event (α : Type) where
  /-- A process goes on. -/
  | proceed (p : ProcessId) (rest : Course α)
  /-- A request leaves. -/
  | depart (number : Nat) (r : WireRequest)
  /-- The service is done with a request. -/
  | arrive (number : Nat) (delivery : Delivery)
  /-- A process learns that its request is settled, or that the deadline has passed. -/
  | collect (number : Nat)
  /-- The quiet period of a search field ends. -/
  | fire (field submission : Nat) (work : Course α)
  /-- The run of a search field begins. -/
  | launch (field submission : Nat) (work : Course α)
  /-- A run is no longer in flight. -/
  | land (p : ProcessId)
  /-- A process that may be waited for has ended. -/
  | joined (p : ProcessId)
  /-- The caller goes on. -/
  | wake

/-- A request under way: the process that waits for it, what it does then, and what the service has
delivered. -/
structure Exchange (α : Type) where
  number : Nat
  process : ProcessId
  next : Delivery → Course α
  delivery : Option Delivery := none

/-- What happened, for whoever wants to know: entries, requests, pauses and runs, with the times
of most of them, and how often the service was closed. -/
structure Transcript where
  log : List (Float × LogEntry) := []
  sent : List (Float × WireRequest) := []
  pauses : List Number := []
  launched : List (Float × Nat × Nat) := []
  closings : Nat := 0

/-- A search field: its quiet period in seconds and where its submissions stand. -/
structure SearchField (α : Type) where
  quietPeriod : Number
  coalescer : Coalescer (Except Raised α) := {}

/-- What the caller waits for: processes, and whether the first error among them ends the wait. -/
structure Waiting where
  processes : List ProcessId := []
  impatient : Bool := false
  raised : Option Raised := none

/-- The state of a simulation. -/
structure Simulation (α : Type) where
  timeline : Timeline (Event α) := {}
  script : Script
  /-- The draws, used in turn and then again from the first. -/
  draws : List Float := []
  drawn : Nat := 0
  /-- How many requests and parts have begun. -/
  requests : Nat := 0
  parts : Nat := 0
  exchanges : List (Exchange α) := []
  fields : List (SearchField α) := []
  inFlight : List ProcessId := []
  ended : List (ProcessId × Except Raised α) := []
  waiting : Waiting := {}
  awake : Bool := true
  /-- What goes wrong when something is printed, if anything does. -/
  printFault : Option String := none
  transcript : Transcript := {}

namespace Simulation

/-- The present. -/
def now (s : Simulation α) : Float := s.timeline.now

/-- A number of seconds as a double. -/
def seconds : Number → Float
  | .float x => x
  | .int n => Decimal.nearest (n < 0) n.natAbs 1

/-- Schedules an event for the next turn or a later one. -/
def soon (s : Simulation α) (turns : Nat) (e : Event α) : Simulation α :=
  { s with timeline := s.timeline.soon turns e }

/-- Schedules an event for a time, or for a later turn of that time. -/
def schedule (s : Simulation α) (due : Float) (turns : Nat) (e : Event α) : Simulation α :=
  { s with timeline := s.timeline.schedule due turns e }

/-- Adds an entry to the log. -/
def report (s : Simulation α) (entry : LogEntry) : Simulation α :=
  { s with
    transcript := { s.transcript with log := s.transcript.log ++ [(s.now, entry)] } }

/-- Adds entries to the log. -/
def reportAll (s : Simulation α) (entries : List LogEntry) : Simulation α :=
  entries.foldl report s

/-- The next draw. -/
def draw (s : Simulation α) : Float × Simulation α :=
  (s.draws.getD (s.drawn % s.draws.length) 0, { s with drawn := s.drawn + 1 })

/-- An event after a pause.  Without a positive length the pause lasts one turn; otherwise the
event follows one turn behind a timer. -/
def pause (s : Simulation α) (length : Number) (e : Event α) : Simulation α :=
  let length := seconds length
  if length ≤ 0 then s.soon 0 e else s.schedule (s.now + length) 1 e

/-- Begins an exchange with a deadline, which counts from now.  The request leaves in the next turn.
A process learns three turns later that there was no time at all. -/
def exchange (s : Simulation α) (p : ProcessId) (r : WireRequest) (timeout : Number)
    (next : Delivery → Course α) : Simulation α :=
  let limit := seconds timeout
  if limit ≤ 0 then s.soon 2 (.proceed p (next .expired))
  else
    let number := s.requests
    let begun := { s with
      requests := number + 1
      exchanges := ⟨number, p, next, none⟩ :: s.exchanges }
    (begun.schedule (s.now + limit) 1 (.collect number)).soon 0 (.depart number r)

/-- A request leaves, if it has an address: what is delivered for it, and after how many seconds, if
the service keeps it. -/
def send (s : Simulation α) (r : WireRequest) : Outcome × Simulation α :=
  match r.address, s.script.closed with
  | .error fault, _ => (⟨none, .raised (.fault fault)⟩, s)
  | .ok _, true => (⟨none, .raised Script.closedFault⟩, s)
  | .ok _, false =>
    let (outcome, script) := s.script.play r
    (outcome, { s with
      script := script
      transcript := { s.transcript with sent := s.transcript.sent ++ [(s.now, r)] } })

/-- The service is done with a request; the process learns it two turns later, unless its deadline
passes before. -/
def arrive (s : Simulation α) (number : Nat) (delivery : Delivery) : Simulation α :=
  { s with
    exchanges := s.exchanges.map fun (x : Exchange α) =>
      if x.number == number then { x with delivery := some delivery } else x }.soon 1
        (.collect number)

/-- A request of an exchange leaves. -/
def depart (s : Simulation α) (number : Nat) (r : WireRequest) : Simulation α :=
  let (outcome, s) := s.send r
  match outcome.hang with
  | none => s.arrive number outcome.delivery
  | some hang => s.pause hang (.arrive number outcome.delivery)

/-- Ends an exchange: nothing else will come of it. -/
def endExchange (s : Simulation α) (number : Nat) : Simulation α :=
  { s with
    exchanges := s.exchanges.filter (·.number != number)
    timeline := s.timeline.withdraw fun e =>
      match e with
      | .arrive n _ | .collect n => n == number
      | _ => false }

/-- Whether the service is about to be done with a request in this very turn. -/
def isArriving (s : Simulation α) (number : Nat) : Bool :=
  s.timeline.turn.any fun (turns, e) =>
    match e with
    | .arrive n _ => n == number && turns == 0
    | _ => false

/-- Ends the wait for a request.  One that is not settled by now is called off, and that takes three
turns, or two when the service was about to be done with it. -/
def collect (s : Simulation α) (number : Nat) : Option (Exchange α) × Simulation α :=
  match s.exchanges.find? (·.number == number) with
  | none => (none, s)
  | some x =>
    let ended := s.endExchange number
    match x.delivery with
    | some _ => (some x, ended)
    | none =>
      (none, ended.soon (if s.isArriving number then 1 else 2)
        (.proceed x.process (x.next .expired)))

/-- Changes what is known about a search field. -/
def setCoalescer (s : Simulation α) (field : Nat)
    (change : Coalescer (Except Raised α) → Coalescer (Except Raised α)) : Simulation α :=
  { s with
    fields := s.fields.modify field fun f => { f with coalescer := change f.coalescer } }

/-- A run ends: its submission gets the outcome, unless it is out of date. -/
def settleRun (s : Simulation α) (field submission : Nat) (outcome : Except Raised α) :
    Simulation α :=
  match s.fields[field]? with
  | none => s
  | some f =>
    let (c, entries) := f.coalescer.settle Raised.text submission outcome
    (s.setCoalescer field fun _ => c).reportAll entries

/-- A process ends. -/
def finish (s : Simulation α) (p : ProcessId) (outcome : Except Raised α) : Simulation α :=
  let s := { s with ended := s.ended ++ [(p, outcome)] }
  match p with
  | .caller => s
  | .part _ => s.soon 0 (.joined p)
  | .run field submission =>
    ((s.settleRun field submission outcome).soon 0 (.land p)).soon 0 (.joined p)

/-- A process goes on until it waits or ends. -/
def proceed (s : Simulation α) (p : ProcessId) : Course α → Simulation α
  | .done outcome => s.finish p outcome
  | .log entry next => (s.report entry).proceed p next
  | .draw next =>
    let (x, s) := s.draw
    s.proceed p (next x)
  | .clock next => s.proceed p (next s.now)
  | .sleep length next =>
    { s with
      transcript := { s.transcript with pauses := s.transcript.pauses ++ [length] } }.pause
        length (.proceed p next)
  | .exchange r next =>
    match r.timeout with
    | some timeout => s.exchange p r timeout next
    | none =>
      let (outcome, s) := s.send r
      match outcome.hang with
      | none => s.proceed p (next outcome.delivery)
      | some hang => s.pause hang (.proceed p (next outcome.delivery))

/-- The quiet period of a search field ends. -/
def fire (s : Simulation α) (field submission : Nat) (work : Course α) : Simulation α :=
  match s.fields[field]? with
  | none => s
  | some f =>
    match f.coalescer.fire? submission with
    | none => s
    | some c =>
      let s := s.setCoalescer field fun _ => c
      { s with inFlight := s.inFlight ++ [ProcessId.run field submission] }.soon 0
        (.launch field submission work)

/-- The run of a search field begins. -/
def launch (s : Simulation α) (field submission : Nat) (work : Course α) : Simulation α :=
  { s with
    transcript := { s.transcript with
      launched := s.transcript.launched ++ [(s.now, field, submission)] } }.proceed
        (.run field submission) work

/-- The error with which a process ended. -/
def raisedBy? (s : Simulation α) (p : ProcessId) : Option Raised :=
  match s.ended.lookup p with
  | some (.error raised) => some raised
  | _ => none

/-- A process has ended.  The caller goes on when it was the last one, or when the caller is
impatient and it ended with an error. -/
def join (s : Simulation α) (p : ProcessId) : Simulation α :=
  if !s.waiting.processes.contains p then s
  else
    let others := s.waiting.processes.filter (· != p)
    match s.waiting.impatient, s.raisedBy? p with
    | true, some raised =>
      { s with waiting := { s.waiting with processes := [], raised := some raised } }.soon 0 .wake
    | _, _ =>
      let s := { s with waiting := { s.waiting with processes := others } }
      if others.isEmpty then s.soon 0 .wake else s

/-- An event happens. -/
def handle (s : Simulation α) : Event α → Simulation α
  | .proceed p rest => s.proceed p rest
  | .depart number r => s.depart number r
  | .arrive number delivery => s.arrive number delivery
  | .collect number =>
    match s.collect number with
    | (some x, s) => s.proceed x.process (x.next (x.delivery.getD .expired))
    | (none, s) => s
  | .fire field submission work => s.fire field submission work
  | .launch field submission work => s.launch field submission work
  | .land p => { s with inFlight := s.inFlight.filter (· != p) }
  | .joined p => s.join p
  | .wake => { s with awake := true }

/-- Lets events happen until a condition holds, nothing is left to happen, or the fuel is used
up. -/
def runUntil (holds : Simulation α → Bool) : Nat → Simulation α → Simulation α
  | 0, s => s
  | fuel + 1, s =>
    if holds s then s
    else
      match s.timeline.next? with
      | none => s
      | some (none, timeline) => runUntil holds fuel { s with timeline := timeline }
      | some (some e, timeline) =>
        runUntil holds fuel ({ s with timeline := timeline }.handle e)

end Simulation

end Bazaar
