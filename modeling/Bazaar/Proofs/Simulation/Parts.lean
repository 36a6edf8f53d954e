import Bazaar.Proofs.Simulation.Timeline
import Bazaar.Proofs.Task
import Bazaar.Simulation.Event

/-!
# The processes of a simulation

Whatever happens in a simulation, a process does what its task comes to on some answers, and a
caller that waits for several is woken only when all of them have ended or one of them has raised.
-/

namespace Bazaar.Simulation

variable {α : Type} {start : ProcessId → Option (Course α)} {parts : List ProcessId}
  {s : Simulation α}

/-! ## What a simulation keeps to -/

/-- What a process is about to do is something that its task leads to. -/
def Follows (start : ProcessId → Option (Course α)) (p : ProcessId) (rest : Course α) : Prop :=
  ∀ task, start p = some task → task.Leads rest

theorem Follows.step {p : ProcessId} {rest rest' : Course α} (follows : Follows start p rest)
    (step : Task.Step rest rest') : Follows start p rest' :=
  fun task begun => (follows task begun).tail step

/-- What an event to come has to keep to: a process goes on with its task, one that is said to have
ended has an outcome, and the caller is woken only when it waits for nothing more. -/
def Admits (start : ProcessId → Option (Course α)) (s : Simulation α) : Event α → Prop
  | .proceed p rest => Follows start p rest
  | .fire field submission work => Follows start (.run field submission) work
  | .launch field submission work => Follows start (.run field submission) work
  | .joined p => (s.ended.lookup p).isSome = true
  | .wake => s.waiting.processes = []
  | _ => True

/-- A simulation in which processes do their tasks and the caller waits for parts. -/
structure Serves (start : ProcessId → Option (Course α)) (parts : List ProcessId)
    (s : Simulation α) : Prop where
  events : ∀ e ∈ s.timeline.events, s.Admits start e
  exchanges : ∀ x ∈ s.exchanges, ∀ d, Follows start x.process (x.next d)
  ended : ∀ p outcome, (p, outcome) ∈ s.ended → Follows start p (.done outcome)
  waiting : s.waiting.raised = none →
    ∀ p ∈ parts, p ∈ s.waiting.processes ∨ (s.ended.lookup p).isSome = true
  woken : s.awake = true → s.waiting.processes = []

/-- Reports show in the transcript and nowhere else. -/
theorem exists_reportAll_eq (s : Simulation α) (entries : List LogEntry) :
    ∃ transcript, s.reportAll entries = { s with transcript := transcript } := by
  unfold reportAll
  induction entries generalizing s with
  | nil => exact ⟨s.transcript, rfl⟩
  | cons entry entries ih => exact ih (s.report entry)

namespace Serves

/-! ## One event after another -/

theorem setTimeline (serves : Serves start parts s) {timeline : Timeline (Event α)}
    (admits : ∀ e ∈ timeline.events, s.Admits start e) :
    Serves start parts { s with timeline := timeline } :=
  ⟨admits, serves.exchanges, serves.ended, serves.waiting, serves.woken⟩

theorem addEvent (serves : Serves start parts s) {timeline : Timeline (Event α)} {e : Event α}
    (added : timeline.events.Perm (e :: s.timeline.events)) (admits : s.Admits start e) :
    Serves start parts { s with timeline := timeline } := by
  apply serves.setTimeline
  intro e' member
  rcases List.mem_cons.mp (added.mem_iff.mp member) with rfl | before
  · exact admits
  · exact serves.events e' before

theorem soon (serves : Serves start parts s) (turns : Nat) {e : Event α}
    (admits : s.Admits start e) : Serves start parts (s.soon turns e) :=
  serves.addEvent (s.timeline.events_soon turns e) admits

theorem schedule (serves : Serves start parts s) (due : Float) (turns : Nat) {e : Event α}
    (admits : s.Admits start e) : Serves start parts (s.schedule due turns e) :=
  serves.addEvent (s.timeline.events_schedule due turns e) admits

theorem pause (serves : Serves start parts s) (length : Number) {e : Event α}
    (admits : s.Admits start e) : Serves start parts (s.pause length e) := by
  simp only [Simulation.pause]
  split
  · exact serves.soon 0 admits
  · exact serves.schedule _ 1 admits

theorem report (serves : Serves start parts s) (entry : LogEntry) :
    Serves start parts (s.report entry) :=
  ⟨serves.events, serves.exchanges, serves.ended, serves.waiting, serves.woken⟩

theorem send (serves : Serves start parts s) (r : WireRequest) :
    Serves start parts (s.send r).2 := by
  unfold Simulation.send
  split
  · exact serves
  · exact serves
  · exact ⟨serves.events, serves.exchanges, serves.ended, serves.waiting, serves.woken⟩

theorem reportAll (serves : Serves start parts s) (entries : List LogEntry) :
    Serves start parts (s.reportAll entries) := by
  obtain ⟨transcript, same⟩ := s.exists_reportAll_eq entries
  rw [same]
  exact ⟨serves.events, serves.exchanges, serves.ended, serves.waiting, serves.woken⟩

theorem settleRun (serves : Serves start parts s) (field submission : Nat)
    (outcome : Except Raised α) : Serves start parts (s.settleRun field submission outcome) := by
  unfold Simulation.settleRun
  split
  · exact serves
  · rename_i f found
    have settled : Serves start parts (s.setCoalescer field fun _ =>
        (f.coalescer.settle Raised.text submission outcome).1) :=
      ⟨serves.events, serves.exchanges, serves.ended, serves.waiting, serves.woken⟩
    exact settled.reportAll _

theorem settleRun_ended (s : Simulation α) (field submission : Nat) (outcome : Except Raised α) :
    (s.settleRun field submission outcome).ended = s.ended := by
  unfold Simulation.settleRun
  split
  · rfl
  · rename_i f found
    obtain ⟨transcript, same⟩ := exists_reportAll_eq (s.setCoalescer field fun _ =>
      (f.coalescer.settle Raised.text submission outcome).1)
        (f.coalescer.settle Raised.text submission outcome).2
    have unchanged := congrArg Simulation.ended same
    exact unchanged

/-- A process ends with what its task ends with. -/
theorem finish (serves : Serves start parts s) {p : ProcessId} {outcome : Except Raised α}
    (follows : Follows start p (.done outcome)) : Serves start parts (s.finish p outcome) := by
  have known : ((s.ended ++ [(p, outcome)]).lookup p).isSome = true := by
    simp [List.lookup_append]
  have recorded : Serves start parts { s with ended := s.ended ++ [(p, outcome)] } := by
    have kept {q : ProcessId} (before : (s.ended.lookup q).isSome = true) :
        ((s.ended ++ [(p, outcome)]).lookup q).isSome = true := by
      simp [List.lookup_append, before]
    constructor
    · intro e member
      have before := serves.events e member
      cases e with
      | joined q => exact kept before
      | _ => exact before
    · exact serves.exchanges
    · intro q o member
      rcases List.mem_append.mp member with earlier | now
      · exact serves.ended q o earlier
      · obtain ⟨rfl, rfl⟩ := Prod.mk.inj (List.mem_singleton.mp now)
        exact follows
    · intro noError q awaited
      exact (serves.waiting noError q awaited).imp_right kept
    · exact serves.woken
  cases p with
  | caller => exact recorded
  | part number => exact recorded.soon (e := .joined _) 0 known
  | run field submission =>
      have landed := (recorded.settleRun field submission outcome).soon
        (e := .land (.run field submission)) 0 trivial
      refine landed.soon (e := .joined _) 0 ?_
      show ((Simulation.settleRun _ field submission outcome).ended.lookup _).isSome = true
      rw [settleRun_ended]
      exact known

theorem exchange (serves : Serves start parts s) {p : ProcessId} (r : WireRequest)
    (timeout : Number) {next : Delivery → Course α} (follows : ∀ d, Follows start p (next d)) :
    Serves start parts (s.exchange p r timeout next) := by
  simp only [Simulation.exchange]
  split
  · exact serves.soon (e := .proceed p _) 2 (follows .expired)
  · have begun : Serves start parts { s with
        requests := s.requests + 1
        exchanges := ⟨s.requests, p, next, none⟩ :: s.exchanges } := by
      refine ⟨serves.events, ?_, serves.ended, serves.waiting, serves.woken⟩
      intro x member
      rcases List.mem_cons.mp member with rfl | before
      · exact follows
      · exact serves.exchanges x before
    exact (begun.schedule (e := .collect _) _ 1 trivial).soon (e := .depart _ _) 0 trivial

/-- A process that goes on keeps to its task until it waits or ends. -/
theorem proceed (serves : Serves start parts s) {p : ProcessId} {rest : Course α}
    (follows : Follows start p rest) : Serves start parts (s.proceed p rest) := by
  induction rest generalizing s with
  | done outcome => exact serves.finish follows
  | log entry next ih => exact ih (serves.report entry) (follows.step (.log entry next))
  | draw next ih =>
      have drawn : Serves start parts s.draw.2 :=
        ⟨serves.events, serves.exchanges, serves.ended, serves.waiting, serves.woken⟩
      exact ih s.draw.1 drawn (follows.step (.draw next s.draw.1))
  | clock next ih => exact ih s.now serves (follows.step (.clock next s.now))
  | sleep length next ih =>
      have noted : Serves start parts { s with
          transcript := { s.transcript with pauses := s.transcript.pauses ++ [length] } } :=
        ⟨serves.events, serves.exchanges, serves.ended, serves.waiting, serves.woken⟩
      exact noted.pause (e := .proceed p next) length (follows.step (.sleep length next))
  | exchange r next ih =>
      have onward (d : Delivery) := follows.step (.exchange r next d)
      unfold Simulation.proceed
      split
      · exact serves.exchange r _ onward
      · have sent := serves.send r
        simp only
        split
        · exact ih _ sent (onward _)
        · exact sent.pause (e := .proceed p _) _ (onward _)

theorem setExchanges (serves : Serves start parts s) {xs : List (Exchange α)}
    (follow : ∀ x ∈ xs, ∀ d, Follows start x.process (x.next d)) :
    Serves start parts { s with exchanges := xs } :=
  ⟨serves.events, follow, serves.ended, serves.waiting, serves.woken⟩

theorem arrive (serves : Serves start parts s) (number : Nat) (delivery : Delivery) :
    Serves start parts (s.arrive number delivery) := by
  unfold Simulation.arrive
  refine (serves.setExchanges fun x member => ?_).soon (e := .collect number) 1 trivial
  obtain ⟨y, before, rfl⟩ := List.mem_map.mp member
  split
  · exact serves.exchanges y before
  · exact serves.exchanges y before

theorem depart (serves : Serves start parts s) (number : Nat) (r : WireRequest) :
    Serves start parts (s.depart number r) := by
  unfold Simulation.depart
  have sent := serves.send r
  simp only
  split
  · exact sent.arrive number _
  · exact sent.pause (e := .arrive number _) _ trivial

theorem endExchange (serves : Serves start parts s) (number : Nat) :
    Serves start parts (s.endExchange number) := by
  refine ⟨?_, ?_, serves.ended, serves.waiting, serves.woken⟩
  · intro e member
    rw [Simulation.endExchange, Timeline.events_withdraw] at member
    exact serves.events e (List.mem_filter.mp member).1
  · intro x member
    exact serves.exchanges x (List.mem_filter.mp member).1

theorem collect (serves : Serves start parts s) (number : Nat) :
    Serves start parts (s.handle (.collect number)) := by
  cases found : s.exchanges.find? (·.number == number) with
  | none =>
      simp only [Simulation.handle, Simulation.collect, found]
      exact serves
  | some x =>
      have follows := serves.exchanges x (List.mem_of_find?_eq_some found)
      have ended := serves.endExchange number
      cases delivered : x.delivery with
      | none =>
          simp only [Simulation.handle, Simulation.collect, found, delivered]
          exact ended.soon (e := .proceed x.process _) _ (follows .expired)
      | some d =>
          simp only [Simulation.handle, Simulation.collect, found, delivered]
          exact ended.proceed (follows _)

theorem fire (serves : Serves start parts s) {field submission : Nat} {work : Course α}
    (follows : Follows start (.run field submission) work) :
    Serves start parts (s.fire field submission work) := by
  unfold Simulation.fire
  split
  · exact serves
  · split
    · exact serves
    · rename_i f _ c _
      have begun : Serves start parts { s.setCoalescer field fun _ => c with
          inFlight := s.inFlight ++ [ProcessId.run field submission] } :=
        ⟨serves.events, serves.exchanges, serves.ended, serves.waiting, serves.woken⟩
      exact begun.soon (e := .launch field submission work) 0 follows

/-- The caller stops waiting for a process that has ended, or for all of them. -/
theorem join (serves : Serves start parts s) {p : ProcessId}
    (ended : (s.ended.lookup p).isSome = true) : Serves start parts (s.join p) := by
  -- Whoever waited for nothing more before does so afterwards.
  have still {waiting : Waiting} (fewer : s.waiting.processes = [] → waiting.processes = [])
      (awaited : waiting.raised = none → ∀ q ∈ parts,
        q ∈ waiting.processes ∨ (s.ended.lookup q).isSome = true) :
      Serves start parts { s with waiting := waiting } := by
    refine ⟨?_, serves.exchanges, serves.ended, awaited, fun awake => fewer (serves.woken awake)⟩
    intro e member
    have before := serves.events e member
    cases e with
    | wake => exact fewer before
    | _ => exact before
  have others : Serves start parts { s with
      waiting := { s.waiting with processes := s.waiting.processes.filter (· != p) } } := by
    apply still
    · intro none
      rw [none]
      rfl
    · intro noError q awaited
      rcases serves.waiting noError q awaited with waited | known
      · by_cases same : q = p
        · exact .inr (same ▸ ended)
        · exact .inl (List.mem_filter.mpr ⟨waited, by simpa using same⟩)
      · exact .inr known
  unfold Simulation.join
  split
  · exact serves
  · simp only
    split
    · refine (still ?_ ?_).soon (e := .wake) 0 rfl
      · exact fun _ => rfl
      · exact nofun
    · split
      · rename_i none
        exact others.soon (e := .wake) 0 (List.isEmpty_iff.mp none)
      · exact others

/-- Whatever happens, a simulation serves on. -/
theorem handle (serves : Serves start parts s) {e : Event α} (admits : s.Admits start e) :
    Serves start parts (s.handle e) := by
  cases e with
  | proceed p rest => exact serves.proceed admits
  | depart number r => exact serves.depart number r
  | arrive number delivery => exact serves.arrive number delivery
  | collect number => exact serves.collect number
  | fire field submission work => exact serves.fire admits
  | launch field submission work =>
      have noted : Serves start parts { s with
          transcript := { s.transcript with
            launched := s.transcript.launched ++ [(s.now, field, submission)] } } :=
        ⟨serves.events, serves.exchanges, serves.ended, serves.waiting, serves.woken⟩
      exact noted.proceed admits
  | land p => exact ⟨serves.events, serves.exchanges, serves.ended, serves.waiting, serves.woken⟩
  | joined p => exact serves.join admits
  | wake =>
      exact ⟨serves.events, serves.exchanges, serves.ended, serves.waiting, fun _ => admits⟩

theorem runUntil (serves : Serves start parts s) (holds : Simulation α → Bool) (fuel : Nat) :
    Serves start parts (runUntil holds fuel s) := by
  induction fuel generalizing s with
  | zero => exact serves
  | succ fuel ih =>
      unfold Simulation.runUntil
      split
      · exact serves
      · split
        · exact serves
        · rename_i timeline next
          have events := Timeline.next?_events next
          apply ih
          exact serves.setTimeline fun e member => serves.events e (events.mem_iff.mpr member)
        · rename_i e timeline next
          have events := Timeline.next?_events next
          have rest := serves.setTimeline fun e' member =>
            serves.events e' (events.mem_iff.mpr (List.mem_cons_of_mem e member))
          apply ih
          exact rest.handle (serves.events e (events.mem_iff.mpr List.mem_cons_self))

end Serves

end Bazaar.Simulation
