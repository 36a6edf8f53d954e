import Bazaar.Proofs.Task

/-!
# What draws and times decide

Two tasks are similar if they do the same on the same deliveries, whatever each of them draws and
whatever time it is told, but for the lengths of their pauses and the words of their reports.  A
task that is similar to itself is steady: of what it draws and is told, only the lengths of its
pauses and its reports can depend.
-/

namespace Bazaar

/-- The acts of a trace but for the lengths of its pauses, and its result. -/
def Trace.outline (t : Trace α) : List (Option WireRequest) × α :=
  (t.acts.map Act.request?, t.result)

namespace Task

/-- Whether two tasks do the same on the same deliveries. -/
inductive Similar : Task α → Task α → Prop where
  | done (a : α) : Similar (.done a) (.done a)
  | log (entry entry' : LogEntry) {next next' : Task α} (rest : Similar next next') :
      Similar (.log entry next) (.log entry' next')
  | draw {next next' : Float → Task α} (rest : ∀ x y, Similar (next x) (next' y)) :
      Similar (.draw next) (.draw next')
  | clock {next next' : Float → Task α} (rest : ∀ x y, Similar (next x) (next' y)) :
      Similar (.clock next) (.clock next')
  | sleep (seconds seconds' : Number) {next next' : Task α} (rest : Similar next next') :
      Similar (.sleep seconds next) (.sleep seconds' next')
  | exchange (r : WireRequest) {next next' : Delivery → Task α}
      (rest : ∀ d, Similar (next d) (next' d)) : Similar (.exchange r next) (.exchange r next')

/-- Whether a task does the same on the same deliveries, whatever it draws and is told. -/
def Steady (t : Task α) : Prop :=
  Similar t t

variable {t t' : Task α}

theorem Similar.bind {f f' : α → Task β} (first : Similar t t')
    (behind : ∀ a, Similar (f a) (f' a)) : Similar (t.bind f) (t'.bind f') := by
  induction first with
  | done a => exact behind a
  | log entry entry' _ ih => exact .log entry entry' ih
  | draw _ ih => exact .draw ih
  | clock _ ih => exact .clock ih
  | sleep seconds seconds' _ ih => exact .sleep seconds seconds' ih
  | exchange r _ ih => exact .exchange r ih

theorem Similar.logAll (entries : List LogEntry) (rest : Similar t t') :
    Similar (Task.logAll entries t) (Task.logAll entries t') := by
  induction entries with
  | nil => exact rest
  | cons entry entries ih => exact .log entry entry ih

/-- Similar tasks have the same outline on the same deliveries. -/
theorem Similar.outline_eq (similar : Similar t t') {supply supply' : Supply}
    (same : supply.deliveries = supply'.deliveries) {used used' : Usage}
    (together : used.deliveries = used'.deliveries) :
    (t.run supply used).outline = (t'.run supply' used').outline := by
  induction similar generalizing used used' with
  | done a => rfl
  | log _ _ _ ih => exact ih together
  | draw _ ih => exact ih _ _ together
  | clock _ ih => exact ih _ _ together
  | sleep _ _ _ ih => exact congrArg (fun o => (none :: o.1, o.2)) (ih together)
  | exchange r _ ih =>
      have delivered : supply.deliveries used.deliveries = supply'.deliveries used'.deliveries := by
        rw [same, together]
      rw [run, run, ← delivered]
      exact congrArg (fun o => (some r :: o.1, o.2)) (ih _ (congrArg (· + 1) together))

/-- Similar tasks need the same number of turns on the same deliveries. -/
theorem Similar.turns_eq {perAct : Nat} (similar : Similar t t') {supply supply' : Supply}
    (same : supply.deliveries = supply'.deliveries) {used used' : Usage}
    (together : used.deliveries = used'.deliveries) :
    t.turns perAct supply used = t'.turns perAct supply' used' := by
  induction similar generalizing used used' with
  | done a => rfl
  | log _ _ _ ih => exact congrArg (· + 1) (ih together)
  | draw _ ih => exact congrArg (· + 1) (ih _ _ together)
  | clock _ ih => exact congrArg (· + 1) (ih _ _ together)
  | sleep _ _ _ ih => exact congrArg (· + perAct) (ih together)
  | exchange r _ ih =>
      have delivered : supply.deliveries used.deliveries = supply'.deliveries used'.deliveries := by
        rw [same, together]
      rw [turns, turns, ← delivered]
      exact congrArg (· + perAct) (ih _ (congrArg (· + 1) together))

end Task

end Bazaar
