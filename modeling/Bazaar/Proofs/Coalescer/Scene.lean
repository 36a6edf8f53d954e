import Bazaar.Proofs.Coalescer.Promises
import Mathlib.Data.List.Induction

/-!
# A field and what happens to it

A coalescer together with the loop that it lives in: the timers that the loop holds, the runs in
flight, and a record of what was launched and delivered.  People submit, cancel and give up as they
like; timers fire and runs end in any order.
-/

namespace Bazaar

/-- What can happen to a field. -/
inductive Happening (ω ε α : Type) where
  | submit (work : ω)
  | cancel
  /-- The timer of a submission fires. -/
  | fire (submission : Nat)
  /-- The run of a submission ends. -/
  | complete (submission : Nat) (outcome : Except ε α)
  /-- The caller of a submission stops waiting. -/
  | giveUp (submission : Nat)

namespace Happening

/-- Whether the counter of the field goes up. -/
def isMove : Happening ω ε α → Bool
  | .submit _ | .cancel => true
  | _ => false

/-- Whether the timer of the submission fires. -/
def isFire (submission : Nat) : Happening ω ε α → Bool
  | .fire g => g == submission
  | _ => false

theorem isFire_iff {submission : Nat} {x : Happening ω ε α} :
    x.isFire submission = true ↔ x = .fire submission := by
  cases x <;> simp [isFire]

theorem ne_fire {submission : Nat} {x : Happening ω ε α} (notFire : x.isFire submission = false) :
    x ≠ .fire submission := by
  rintro rfl
  simp [isFire] at notFire

end Happening

/-! ## The scene -/

/-- A field in its loop: the coalescer, the timers with the work that they are for, the numbers of
the runs in flight, and what was launched and delivered so far. -/
structure Scene (ω ε α : Type) where
  coalescer : Coalescer (Except ε α) := {}
  timers : List (Nat × ω) := []
  running : List Nat := []
  launched : List (Nat × ω) := []
  /-- The outcomes that promises were resolved with. -/
  deliveries : List (Nat × Except ε α) := []

namespace Scene

/-- Takes the timer away that the coalescer holds. -/
def disarm (s : Scene ω ε α) : Scene ω ε α :=
  { s with timers := s.timers.filter fun (g, _) => some g != s.coalescer.armed }

/-- Work is submitted: it gets the only timer. -/
def submit (s : Scene ω ε α) (work : ω) : Scene ω ε α :=
  { s.disarm with
    coalescer := s.coalescer.submit
    timers := s.disarm.timers ++ [(s.coalescer.submit.generation, work)] }

/-- Everything that was asked for is called off. -/
def cancel (s : Scene ω ε α) : Scene ω ε α :=
  { s.disarm with coalescer := s.coalescer.cancel }

/-- The timer of a submission fires; it launches the work unless it is out of date. -/
def fire (s : Scene ω ε α) (submission : Nat) (work : ω) : Scene ω ε α :=
  let s := { s with timers := s.timers.filter fun (g, _) => g != submission }
  match s.coalescer.fire? submission with
  | none => s
  | some c =>
    { s with
      coalescer := c
      running := s.running ++ [submission]
      launched := s.launched ++ [(submission, work)] }

/-- The run of a submission ends. -/
def complete (wording : ε → String) (s : Scene ω ε α) (submission : Nat)
    (outcome : Except ε α) : Scene ω ε α :=
  { s with
    coalescer := (s.coalescer.settle wording submission outcome).1
    running := s.running.erase submission
    deliveries :=
      if s.coalescer.delivers submission then s.deliveries ++ [(submission, outcome)]
      else s.deliveries }

/-- The caller of a submission stops waiting. -/
def giveUp (s : Scene ω ε α) (submission : Nat) : Scene ω ε α :=
  { s with coalescer := s.coalescer.giveUp submission }

section

variable (s : Scene ω ε α)

@[simp]
theorem coalescer_submit (work : ω) : (s.submit work).coalescer = s.coalescer.submit :=
  rfl

@[simp]
theorem coalescer_cancel : s.cancel.coalescer = s.coalescer.cancel :=
  rfl

@[simp]
theorem coalescer_complete (wording : ε → String) (g : Nat) (o : Except ε α) :
    (s.complete wording g o).coalescer = (s.coalescer.settle wording g o).1 :=
  rfl

@[simp]
theorem coalescer_giveUp (g : Nat) : (s.giveUp g).coalescer = s.coalescer.giveUp g :=
  rfl

end

/-- Something happens, if it can: only a timer that the loop holds fires, only a run in flight
ends, and only who has submitted can give up. -/
def step? (wording : ε → String) (s : Scene ω ε α) : Happening ω ε α → Option (Scene ω ε α)
  | .submit work => some (s.submit work)
  | .cancel => some s.cancel
  | .fire g => (s.timers.lookup g).map (s.fire g)
  | .complete g outcome =>
    if s.running.contains g then some (s.complete wording g outcome) else none
  | .giveUp g => if (s.coalescer.promise? g).isSome then some (s.giveUp g) else none

/-- What comes of all that happened, if it could happen. -/
def run (wording : ε → String) (past : List (Happening ω ε α)) : Option (Scene ω ε α) :=
  past.foldlM (step? wording) {}

variable {wording : ε → String}

/-- What can happen to a scene and what becomes of it, case by case. -/
inductive Step (wording : ε → String) (s : Scene ω ε α) : Happening ω ε α → Scene ω ε α → Prop where
  | submit (work : ω) : Step wording s (.submit work) (s.submit work)
  | cancel : Step wording s .cancel s.cancel
  | fire {g : Nat} {work : ω} : (g, work) ∈ s.timers → Step wording s (.fire g) (s.fire g work)
  | complete {g : Nat} (outcome : Except ε α) : g ∈ s.running →
      Step wording s (.complete g outcome) (s.complete wording g outcome)
  | giveUp {g : Nat} : s.coalescer.promise? g ≠ none → Step wording s (.giveUp g) (s.giveUp g)

theorem step_of_step? {s s' : Scene ω ε α} {x : Happening ω ε α}
    (stepped : s.step? wording x = some s') : Step wording s x s' := by
  cases x with
  | submit work =>
      cases stepped
      exact .submit work
  | cancel =>
      cases stepped
      exact .cancel
  | fire g =>
      obtain ⟨work, held, rfl⟩ := Option.map_eq_some_iff.mp stepped
      obtain ⟨before, behind, timers, -⟩ := List.lookup_eq_some_iff.mp held
      exact .fire (timers ▸ List.mem_append_cons_self)
  | complete g outcome =>
      obtain ⟨running, same⟩ := Option.ite_none_right_eq_some.mp stepped
      cases same
      exact .complete outcome (List.contains_iff_mem.mp running)
  | giveUp g =>
      obtain ⟨made, same⟩ := Option.ite_none_right_eq_some.mp stepped
      cases same
      exact .giveUp (Option.ne_none_iff_isSome.mpr made)

theorem run_snoc (past : List (Happening ω ε α)) (x : Happening ω ε α) :
    run wording (past ++ [x]) = (run wording past).bind fun s => s.step? wording x := by
  simp [run, List.foldlM_append]

/-- What holds of an untouched field and is kept by whatever happens next holds of every run. -/
theorem run_induction {keeps : List (Happening ω ε α) → Scene ω ε α → Prop}
    (start : keeps [] {})
    (next : ∀ past x s s', run wording past = some s → keeps past s →
      Step wording s x s' → keeps (past ++ [x]) s')
    {past : List (Happening ω ε α)} {s : Scene ω ε α} (ran : run wording past = some s) :
    keeps past s := by
  induction past using List.reverseRecOn generalizing s with
  | nil =>
      cases ran
      exact start
  | append_singleton past x ih =>
      rw [run_snoc] at ran
      obtain ⟨before, ranBefore, stepped⟩ := Option.bind_eq_some_iff.mp ran
      exact next past x before s ranBefore (ih ranBefore) (step_of_step? stepped)

end Scene

end Bazaar
