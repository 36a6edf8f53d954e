import Bazaar.Proofs.Coalescer.Launches
import Bazaar.Proofs.Simulation.Timeline
import Bazaar.Simulation.Call

/-!
# The fields of a simulation

A field of a simulation goes through the scenes of a field in its loop: whatever the caller does to
it, a timer that fires and a run that ends are steps of the scene that the simulation shows.
-/

namespace Bazaar.Simulation

variable {α : Type} {s : Simulation α} {field : Nat} {scene : Scene (Course α) Raised α}

/-- The timer of a field that an event to come is. -/
def timerOf? (field : Nat) : Event α → Option (Nat × Course α)
  | .fire f submission work => if f = field then some (submission, work) else none
  | _ => none

/-- The timers of a field. -/
def timersOf (s : Simulation α) (field : Nat) : List (Nat × Course α) :=
  s.timeline.events.filterMap (timerOf? field)

/-- Whether a field stands as in a scene. -/
structure Shows (s : Simulation α) (field : Nat) (scene : Scene (Course α) Raised α) : Prop where
  coalescer : (s.fields[field]?).map (·.coalescer) = some scene.coalescer
  timers : (s.timersOf field).Perm scene.timers

theorem timersOf_schedule (s : Simulation α) (field : Nat) (due : Float) (turns : Nat)
    (e : Event α) :
    ((s.schedule due turns e).timersOf field).Perm
      ((timerOf? field e).toList ++ s.timersOf field) := by
  have added := (s.timeline.events_schedule due turns e).filterMap (timerOf? field)
  rw [List.filterMap_cons] at added
  cases timer : timerOf? field e with
  | none => simpa [timersOf, schedule, timer] using added
  | some t => simpa [timersOf, schedule, timer] using added

theorem timersOf_soon (s : Simulation α) (field turns : Nat) {e : Event α}
    (notTimer : timerOf? field e = none) :
    ((s.soon turns e).timersOf field).Perm (s.timersOf field) := by
  have added := (s.timeline.events_soon turns e).filterMap (timerOf? field)
  rwa [List.filterMap_cons, notTimer] at added

theorem getElem?_setCoalescer {f : SearchField α} (found : s.fields[field]? = some f)
    (change : Coalescer (Except Raised α) → Coalescer (Except Raised α)) :
    (s.setCoalescer field change).fields[field]? =
      some { f with coalescer := change f.coalescer } := by
  simp [setCoalescer, found]

theorem fields_schedule (s : Simulation α) (due : Float) (turns : Nat) (e : Event α) :
    (s.schedule due turns e).fields = s.fields :=
  rfl

theorem fields_soon (s : Simulation α) (turns : Nat) (e : Event α) :
    (s.soon turns e).fields = s.fields :=
  rfl

theorem reportAll_eq (s : Simulation α) (entries : List LogEntry) :
    (s.reportAll entries).fields = s.fields ∧ (s.reportAll entries).timeline = s.timeline := by
  unfold reportAll
  induction entries generalizing s with
  | nil => exact ⟨rfl, rfl⟩
  | cons entry entries ih => exact ih (s.report entry)

namespace Shows

theorem exists_field (shows : Shows s field scene) :
    ∃ f, s.fields[field]? = some f ∧ f.coalescer = scene.coalescer :=
  Option.map_eq_some_iff.mp shows.coalescer

/-- Disarming takes away the timer that the coalescer holds. -/
theorem disarm (shows : Shows s field scene) : Shows (s.disarm field) field scene.disarm := by
  obtain ⟨f, found, coalescer⟩ := shows.exists_field
  have held : (s.fields[field]?).bind (·.coalescer.armed) = scene.coalescer.armed := by
    rw [found, ← coalescer]
    rfl
  unfold Simulation.disarm
  rw [held]
  cases armed : scene.coalescer.armed with
  | none =>
      refine ⟨shows.coalescer, shows.timers.trans ?_⟩
      have all_kept : scene.disarm.timers = scene.timers :=
        List.filter_eq_self.mpr fun timer _ => by rw [armed]; rfl
      rw [all_kept]
  | some g =>
      refine ⟨shows.coalescer, ?_⟩
      have remaining := shows.timers.filter fun (k, _) => some k != scene.coalescer.armed
      rw [timersOf, List.filter_filterMap] at remaining
      refine List.Perm.trans (.of_eq ?_) remaining
      simp only [timersOf, Timeline.events_withdraw, List.filterMap_filter]
      congr 1
      funext e
      cases e with
      | fire k n work =>
          by_cases own : k = field <;> by_cases same : n = g <;>
            simp [timerOf?, armed, own, same, Option.filter]
      | _ => rfl

theorem submit (shows : Shows s field scene) (work : Course α) :
    Shows (s.submit field work).2 field (scene.submit work) := by
  obtain ⟨f, found, coalescer⟩ := shows.exists_field
  obtain ⟨f', foundAfter, -⟩ := shows.disarm.exists_field
  unfold Simulation.submit
  simp only [found, coalescer]
  constructor
  · rw [fields_schedule, getElem?_setCoalescer foundAfter]
    rfl
  · have added := timersOf_schedule ((s.disarm field).setCoalescer field fun _ =>
      scene.coalescer.submit) field (s.now + seconds f.quietPeriod) 0
        (.fire field scene.coalescer.submit.generation work)
    refine added.trans ?_
    rw [timerOf?, if_pos rfl]
    exact (shows.disarm.timers.cons _).trans (List.perm_append_singleton _ _).symm

theorem cancel (shows : Shows s field scene) : Shows (s.cancel field) field scene.cancel := by
  obtain ⟨f, found, coalescer⟩ := shows.disarm.exists_field
  refine ⟨?_, shows.disarm.timers⟩
  rw [Simulation.cancel, getElem?_setCoalescer found, coalescer]
  rfl

theorem giveUp (shows : Shows s field scene) (g : Nat) :
    Shows (s.giveUp field g) field (scene.giveUp g) := by
  obtain ⟨f, found, coalescer⟩ := shows.exists_field
  refine ⟨?_, shows.timers⟩
  rw [Simulation.giveUp, getElem?_setCoalescer found, coalescer]
  rfl

theorem complete (shows : Shows s field scene) (g : Nat) (outcome : Except Raised α) :
    Shows (s.settleRun field g outcome) field (scene.complete Raised.text g outcome) := by
  obtain ⟨f, found, coalescer⟩ := shows.exists_field
  unfold settleRun
  simp only [found, coalescer]
  obtain ⟨fields, timeline⟩ := reportAll_eq
    (s.setCoalescer field fun _ => (scene.coalescer.settle Raised.text g outcome).1)
    (scene.coalescer.settle Raised.text g outcome).2
  constructor
  · rw [fields, getElem?_setCoalescer found]
    rfl
  · rw [timersOf, timeline]
    exact shows.timers

/-- A timer that comes up is one that the scene holds, and it fires there. -/
theorem fire {past : List (Happening (Course α) Raised α)} (inStep : Scene.InStep past scene)
    (shows : Shows s field scene) {g : Nat} {work : Course α} {timeline : Timeline (Event α)}
    (next : s.timeline.next? = some (some (.fire field g work), timeline)) :
    (g, work) ∈ scene.timers ∧
      Shows ({ s with timeline := timeline }.handle (.fire field g work)) field
        (scene.fire g work) := by
  obtain ⟨f, found, coalescer⟩ := shows.exists_field
  have taken := (Timeline.next?_events next).filterMap (timerOf? field)
  simp only [Option.toList_some, List.singleton_append, List.filterMap_cons, timerOf?, if_pos]
    at taken
  have member : (g, work) ∈ scene.timers :=
    shows.timers.mem_iff.mp (taken.mem_iff.mpr List.mem_cons_self)
  obtain ⟨latest, timers⟩ := inStep.of_mem_timers member
  -- No other timer is left behind the one that fires.
  have none_left : timeline.events.filterMap (timerOf? field) = [] := by
    have single := taken.symm.trans shows.timers
    rw [timers] at single
    exact List.perm_nil.mp (List.Perm.cons_inv single)
  have fires : scene.coalescer.fire? g = some { scene.coalescer with armed := none } :=
    if_pos latest
  have foundNow : ({ s with timeline := timeline } : Simulation α).fields[field]? = some f := found
  refine ⟨member, ?_⟩
  rw [inStep.fire_eq member]
  unfold handle Simulation.fire
  simp only [found, coalescer, fires]
  constructor
  · rw [fields_soon, getElem?_setCoalescer foundNow]
    rfl
  · refine (timersOf_soon _ field 0 rfl).trans ?_
    rw [timersOf]
    exact .of_eq none_left

end Shows

end Bazaar.Simulation
