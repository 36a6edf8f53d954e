import Bazaar.Task
import Mathlib.Logic.Function.Basic
import Mathlib.Logic.Relation

/-!
# Runs of a task

A task asks its surroundings for draws, times and deliveries.  Once these are supplied, each kind
in the order in which it is asked for, the task has exactly one run: the requests and pauses that
its surroundings notice, and its result.  What a task reports is left out.
-/

namespace Bazaar

/-- What a task is answered, by the number of the question. -/
structure Supply where
  draws : Nat → Float
  times : Nat → Float
  deliveries : Nat → Delivery

instance : Inhabited Supply :=
  ⟨fun _ => 0, fun _ => 0, fun _ => .expired⟩

/-- How much of a supply has been used. -/
structure Usage where
  draws : Nat := 0
  times : Nat := 0
  deliveries : Nat := 0

/-- What the surroundings of a task notice. -/
inductive Act where
  | request (r : WireRequest)
  | pause (seconds : Number)

/-- The request of an act, if it is one. -/
def Act.request? : Act → Option WireRequest
  | .request r => some r
  | .pause _ => none

/-- The acts of a task in order, and its result. -/
structure Trace (α : Type) where
  acts : List Act
  result : α

namespace Trace

/-- A trace with one act before it. -/
def after (act : Act) (t : Trace α) : Trace α :=
  ⟨act :: t.acts, t.result⟩

@[simp]
theorem after_acts (act : Act) (t : Trace α) : (t.after act).acts = act :: t.acts :=
  rfl

@[simp]
theorem after_result (act : Act) (t : Trace α) : (t.after act).result = t.result :=
  rfl

/-- The requests of a trace in order. -/
def requests (t : Trace α) : List WireRequest :=
  t.acts.filterMap Act.request?

@[simp]
theorem requests_after_request (t : Trace α) (r : WireRequest) :
    (t.after (.request r)).requests = r :: t.requests :=
  rfl

@[simp]
theorem requests_after_pause (t : Trace α) (seconds : Number) :
    (t.after (.pause seconds)).requests = t.requests :=
  rfl

end Trace

namespace Task

/-- The run of a task on a supply of which some is used already. -/
def run (supply : Supply) : Task α → Usage → Trace α
  | .done a, _ => ⟨[], a⟩
  | .log _ next, used => next.run supply used
  | .draw next, used =>
    (next (supply.draws used.draws)).run supply { used with draws := used.draws + 1 }
  | .clock next, used =>
    (next (supply.times used.times)).run supply { used with times := used.times + 1 }
  | .sleep seconds next, used => (next.run supply used).after (.pause seconds)
  | .exchange r next, used =>
    ((next (supply.deliveries used.deliveries)).run supply
      { used with deliveries := used.deliveries + 1 }).after (.request r)

/-- The turns that a task needs until it has ended, if a question or a report takes one and an act
takes some number of them. -/
def turns (perAct : Nat) (supply : Supply) : Task α → Usage → Nat
  | .done _, _ => 0
  | .log _ next, used => turns perAct supply next used + 1
  | .draw next, used =>
    turns perAct supply (next (supply.draws used.draws)) { used with draws := used.draws + 1 } + 1
  | .clock next, used =>
    turns perAct supply (next (supply.times used.times)) { used with times := used.times + 1 } + 1
  | .sleep _ next, used => turns perAct supply next used + perAct
  | .exchange _ next, used =>
    turns perAct supply (next (supply.deliveries used.deliveries))
      { used with deliveries := used.deliveries + 1 } + perAct

@[simp]
theorem run_done (supply : Supply) (used : Usage) (a : α) :
    (Task.done a).run supply used = ⟨[], a⟩ :=
  rfl

@[simp]
theorem run_log (supply : Supply) (used : Usage) (entry : LogEntry) (next : Task α) :
    (Task.log entry next).run supply used = next.run supply used :=
  rfl

@[simp]
theorem run_logAll (supply : Supply) (used : Usage) (entries : List LogEntry) (next : Task α) :
    (logAll entries next).run supply used = next.run supply used := by
  induction entries with
  | nil => rfl
  | cons entry entries ih => exact ih

/-- A task with another behind it whose result depends on nothing but the result before. -/
theorem result_bind {supply : Supply} {f : α → Task β} {g : α → β}
    (behind : ∀ a used, ((f a).run supply used).result = g a) (t : Task α) (used : Usage) :
    ((t.bind f).run supply used).result = g (t.run supply used).result := by
  induction t generalizing used with
  | done a => exact behind a used
  | log entry next ih => exact ih used
  | draw next ih => exact ih _ _
  | clock next ih => exact ih _ _
  | sleep seconds next ih => exact ih used
  | exchange r next ih => exact ih _ _

/-! ## Steps -/

/-- One step of a task, whatever it is answered. -/
inductive Step : Task α → Task α → Prop where
  | log (entry : LogEntry) (next : Task α) : Step (.log entry next) next
  | draw (next : Float → Task α) (x : Float) : Step (.draw next) (next x)
  | clock (next : Float → Task α) (now : Float) : Step (.clock next) (next now)
  | sleep (seconds : Number) (next : Task α) : Step (.sleep seconds next) next
  | exchange (r : WireRequest) (next : Delivery → Task α) (d : Delivery) :
      Step (.exchange r next) (next d)

/-- What a task comes to, whatever it is answered. -/
def Leads : Task α → Task α → Prop :=
  Relation.ReflTransGen Step

end Task

/-- Whether two supplies agree in everything that is not used yet. -/
structure Supply.Agree (used : Usage) (first second : Supply) : Prop where
  draws : ∀ n, used.draws ≤ n → first.draws n = second.draws n
  times : ∀ n, used.times ≤ n → first.times n = second.times n
  deliveries : ∀ n, used.deliveries ≤ n → first.deliveries n = second.deliveries n

namespace Task

/-- A run takes no notice of what is used already. -/
theorem run_congr {first second : Supply} {used : Usage} (agree : Supply.Agree used first second)
    (t : Task α) : t.run first used = t.run second used := by
  induction t generalizing used with
  | done a => rfl
  | log entry next ih => exact ih agree
  | draw next ih =>
      rw [run, run, agree.draws _ (Nat.le_refl _)]
      exact ih _ ⟨fun n later => agree.draws n (Nat.le_of_succ_le later), agree.times,
        agree.deliveries⟩
  | clock next ih =>
      rw [run, run, agree.times _ (Nat.le_refl _)]
      exact ih _ ⟨agree.draws, fun n later => agree.times n (Nat.le_of_succ_le later),
        agree.deliveries⟩
  | sleep seconds next ih => rw [run, run, ih agree]
  | exchange r next ih =>
      have rest : (next (second.deliveries used.deliveries)).run first
          { used with deliveries := used.deliveries + 1 } =
            (next (second.deliveries used.deliveries)).run second
              { used with deliveries := used.deliveries + 1 } :=
        ih _ ⟨agree.draws, agree.times,
          fun n later => agree.deliveries n (Nat.le_of_succ_le later)⟩
      rw [run, run, agree.deliveries _ (Nat.le_refl _), rest]

/-- The answer to a step can be put in front of a supply for what is left. -/
theorem exists_supply_of_step {t t' : Task α} (step : Step t t') (used : Usage) :
    ∃ used' : Usage, ∀ supply', ∃ supply,
      (t.run supply used).result = (t'.run supply' used').result := by
  cases step with
  | log entry next => exact ⟨used, fun supply' => ⟨supply', rfl⟩⟩
  | draw next x =>
      refine ⟨{ used with draws := used.draws + 1 }, fun supply' => ?_⟩
      let supply : Supply :=
        { supply' with draws := Function.update supply'.draws used.draws x }
      have answer : supply.draws used.draws = x := Function.update_self _ _ _
      have agree : Supply.Agree { used with draws := used.draws + 1 } supply supply' := by
        refine ⟨fun n later => ?_, fun _ _ => rfl, fun _ _ => rfl⟩
        exact Function.update_of_ne (Nat.ne_of_gt later) _ _
      refine ⟨supply, ?_⟩
      rw [run, answer, run_congr agree]
  | clock next now =>
      refine ⟨{ used with times := used.times + 1 }, fun supply' => ?_⟩
      let supply : Supply :=
        { supply' with times := Function.update supply'.times used.times now }
      have answer : supply.times used.times = now := Function.update_self _ _ _
      have agree : Supply.Agree { used with times := used.times + 1 } supply supply' := by
        refine ⟨fun _ _ => rfl, fun n later => ?_, fun _ _ => rfl⟩
        exact Function.update_of_ne (Nat.ne_of_gt later) _ _
      refine ⟨supply, ?_⟩
      rw [run, answer, run_congr agree]
  | sleep seconds next => exact ⟨used, fun supply' => ⟨supply', rfl⟩⟩
  | exchange r next d =>
      refine ⟨{ used with deliveries := used.deliveries + 1 }, fun supply' => ?_⟩
      let supply : Supply :=
        { supply' with deliveries := Function.update supply'.deliveries used.deliveries d }
      have answer : supply.deliveries used.deliveries = d := Function.update_self _ _ _
      have agree : Supply.Agree { used with deliveries := used.deliveries + 1 } supply supply' := by
        refine ⟨fun _ _ => rfl, fun _ _ => rfl, fun n later => ?_⟩
        exact Function.update_of_ne (Nat.ne_of_gt later) _ _
      refine ⟨supply, ?_⟩
      rw [run, Trace.after_result, answer, run_congr agree]

/-- Whatever a task comes to an end with, there is a supply on which it does so. -/
theorem exists_supply {t : Task α} {a : α} (leads : t.Leads (.done a)) (used : Usage) :
    ∃ supply, (t.run supply used).result = a := by
  induction leads using Relation.ReflTransGen.head_induction_on generalizing used with
  | refl => exact ⟨default, rfl⟩
  | head step _ ih =>
      obtain ⟨used', answered⟩ := exists_supply_of_step step used
      obtain ⟨supply', ends⟩ := ih used'
      obtain ⟨supply, same⟩ := answered supply'
      exact ⟨supply, same.trans ends⟩

end Task

end Bazaar
