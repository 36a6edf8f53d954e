import Bazaar.Simulation.Call

/-!
# What tasks leave alone

Neither a task nor anything else that happens while a plan is carried out closes the service or
changes what printing comes to.
-/

namespace Bazaar.Simulation

variable {α : Type}

/-- How often the service has been closed, and what goes wrong when something is printed. -/
def outside (s : Simulation α) : Nat × Option String :=
  (s.transcript.closings, s.printFault)

/-! ## Events -/

@[simp] theorem outside_report (s : Simulation α) (entry : LogEntry) :
    (s.report entry).outside = s.outside := rfl

@[simp] theorem outside_soon (s : Simulation α) (turns : Nat) (e : Event α) :
    (s.soon turns e).outside = s.outside := rfl

@[simp] theorem outside_schedule (s : Simulation α) (due : Float) (turns : Nat) (e : Event α) :
    (s.schedule due turns e).outside = s.outside := rfl

@[simp] theorem outside_setCoalescer (s : Simulation α) (field : Nat)
    (change : Coalescer (Except Raised α) → Coalescer (Except Raised α)) :
    (s.setCoalescer field change).outside = s.outside := rfl

@[simp] theorem outside_endExchange (s : Simulation α) (number : Nat) :
    (s.endExchange number).outside = s.outside := rfl

@[simp] theorem outside_arrive (s : Simulation α) (number : Nat) (delivery : Delivery) :
    (s.arrive number delivery).outside = s.outside := rfl

@[simp] theorem outside_reportAll (s : Simulation α) (entries : List LogEntry) :
    (s.reportAll entries).outside = s.outside := by
  unfold reportAll
  induction entries generalizing s with
  | nil => rfl
  | cons entry entries ih => exact ih (s.report entry)

@[simp] theorem outside_pause (s : Simulation α) (length : Number) (e : Event α) :
    (s.pause length e).outside = s.outside := by
  simp only [pause]
  split <;> rfl

@[simp] theorem outside_exchange (s : Simulation α) (p : ProcessId) (r : WireRequest)
    (timeout : Number) (next : Delivery → Course α) :
    (s.exchange p r timeout next).outside = s.outside := by
  simp only [exchange]
  split <;> rfl

@[simp] theorem outside_send (s : Simulation α) (r : WireRequest) :
    (s.send r).2.outside = s.outside := by
  unfold send
  split <;> rfl

@[simp] theorem outside_depart (s : Simulation α) (number : Nat) (r : WireRequest) :
    (s.depart number r).outside = s.outside := by
  simp only [depart]
  split <;> simp

@[simp] theorem outside_settleRun (s : Simulation α) (field submission : Nat)
    (outcome : Except Raised α) : (s.settleRun field submission outcome).outside = s.outside := by
  unfold settleRun
  split
  · rfl
  · simp

@[simp] theorem outside_finish (s : Simulation α) (p : ProcessId) (outcome : Except Raised α) :
    (s.finish p outcome).outside = s.outside := by
  cases p with
  | caller => rfl
  | part number => rfl
  | run field submission =>
      simp only [finish, outside_soon, outside_settleRun]
      rfl

@[simp] theorem outside_proceed (s : Simulation α) (p : ProcessId) (rest : Course α) :
    (s.proceed p rest).outside = s.outside := by
  induction rest generalizing s with
  | done outcome => exact s.outside_finish p outcome
  | log entry next ih => exact ih (s.report entry)
  | draw next ih => exact ih s.draw.1 s.draw.2
  | clock next ih => exact ih s.now s
  | sleep length next ih => exact outside_pause _ length (.proceed p next)
  | exchange r next ih =>
      unfold proceed
      split
      · simp
      · simp only
        split
        · rw [ih, outside_send]
        · simp

@[simp] theorem outside_collect (s : Simulation α) (number : Nat) :
    (s.collect number).2.outside = s.outside := by
  unfold collect
  split
  · rfl
  · simp only
    split <;> rfl

@[simp] theorem outside_fire (s : Simulation α) (field submission : Nat) (work : Course α) :
    (s.fire field submission work).outside = s.outside := by
  unfold fire
  split
  · rfl
  · split <;> rfl

@[simp] theorem outside_join (s : Simulation α) (p : ProcessId) :
    (s.join p).outside = s.outside := by
  unfold join
  split
  · rfl
  · simp only
    split
    · rfl
    · split <;> rfl

theorem outside_handle (s : Simulation α) (e : Event α) : (s.handle e).outside = s.outside := by
  cases e with
  | proceed p rest => exact s.outside_proceed p rest
  | depart number r => exact s.outside_depart number r
  | arrive number delivery => exact s.outside_arrive number delivery
  | collect number =>
      have collected := s.outside_collect number
      simp only [handle]
      split
      · rename_i x s' same
        rw [outside_proceed, ← collected, same]
      · rename_i s' same
        rw [← collected, same]
  | fire field submission work => exact s.outside_fire field submission work
  | launch field submission work => exact outside_proceed _ (.run field submission) work
  | land p => rfl
  | joined p => exact s.outside_join p
  | wake => rfl

/-! ## Calls -/

theorem outside_runUntil (holds : Simulation α → Bool) (fuel : Nat) (s : Simulation α) :
    (runUntil holds fuel s).outside = s.outside := by
  induction fuel generalizing s with
  | zero => rfl
  | succ fuel ih =>
      unfold runUntil
      split
      · rfl
      · split
        · rfl
        · exact ih _
        · rw [ih, outside_handle]
          rfl

theorem outside_perform (s : Simulation α) (task : Course α) :
    (s.perform task).2.outside = s.outside :=
  (outside_runUntil _ patience _).trans (s.outside_proceed .caller task)

theorem outside_await (s : Simulation α) (processes : List ProcessId) (impatient : Bool) :
    (s.await processes impatient).outside = s.outside := by
  unfold await
  split
  · rfl
  · exact outside_runUntil awake patience _

theorem outside_begin (begun : List (ProcessId × Course α)) (s : Simulation α) :
    (begun.foldl (fun s (p, task) => s.soon 0 (.proceed p task)) s).outside = s.outside := by
  induction begun generalizing s with
  | nil => rfl
  | cons first begun ih => exact ih (s.soon 0 (.proceed first.1 first.2))

theorem outside_performAll (s : Simulation α) (tasks : List (Course α)) (impatient : Bool) :
    (s.performAll tasks impatient).2.outside = s.outside := by
  simp only [performAll]
  split
  · rw [outside_await, outside_begin]
    rfl
  · rw [outside_await, outside_begin]
    rfl

theorem outside_carryOut {β : Type} (s : Simulation Reply) (b : Backend) (plan : Plan β) :
    (s.carryOut b plan).2.outside = s.outside := by
  cases plan with
  | answer a => rfl
  | alone request finish =>
      have performed := s.outside_perform (searchCourse b request)
      simp only [carryOut]
      split <;> (rename_i same; rw [same] at performed; exact performed)
  | together before requests finish =>
      have performed :=
        outside_performAll (s.reportAll before) (requests.map (searchCourse b)) true
      rw [outside_reportAll] at performed
      simp only [carryOut]
      split
      · rename_i same
        rw [same] at performed
        exact performed
      · rename_i same
        rw [same] at performed
        rw [outside_reportAll]
        exact performed
  | checks indices finish =>
      have performed := s.outside_performAll (indices.map (checkCourse b)) false
      simp only [carryOut]
      split
      · rename_i same
        rw [same] at performed
        exact performed
      · rename_i same
        rw [same] at performed
        rw [outside_reportAll]
        exact performed

end Bazaar.Simulation
