import Bazaar.Proofs.Coalescer.Past

/-!
# What a field launches

A field launches exactly the submissions whose timers fire before anything is submitted or cancelled
again.  The timer that the coalescer holds and its counter always agree, so that a timer that fires
is never out of date.
-/

namespace Bazaar.Scene

/-! ## Survivors -/

/-- Whether the timer of a submission fires before anything is submitted or cancelled. -/
def firesInTime (submission : Nat) : List (Happening ω ε α) → Bool
  | [] => false
  | x :: rest => x.isFire submission || (!x.isMove && firesInTime submission rest)

/-- The submissions whose timers fire before anything else is submitted or cancelled, behind some
moves. -/
def survivors (count : Nat) : List (Happening ω ε α) → List (Nat × ω)
  | [] => []
  | .submit work :: rest =>
    if firesInTime (count + 1) rest then (count + 1, work) :: survivors (count + 1) rest
    else survivors (count + 1) rest
  | .cancel :: rest => survivors (count + 1) rest
  | _ :: rest => survivors count rest

section Survivors

variable {past since before : List (Happening ω ε α)} {g : Nat} {x : Happening ω ε α}

theorem firesInTime_snoc (g : Nat) (notFire : x.isFire g = false) :
    firesInTime g (past ++ [x]) = firesInTime g past := by
  induction past with
  | nil => simp [firesInTime, notFire]
  | cons y rest ih => rw [List.cons_append, firesInTime, firesInTime, ih]

theorem firesInTime_of_move (g : Nat) (isMove : x.isMove = true) :
    firesInTime g (before ++ x :: since) = firesInTime g before := by
  have notFire : x.isFire g = false := by
    cases x <;> simp_all [Happening.isMove, Happening.isFire]
  induction before with
  | nil => simp [firesInTime, isMove, notFire]
  | cons y rest ih => rw [List.cons_append, firesInTime, firesInTime, ih]

theorem firesInTime_of_not_mem (unfired : .fire g ∉ since) : firesInTime g since = false := by
  induction since with
  | nil => rfl
  | cons y rest ih =>
      rw [List.mem_cons, not_or] at unfired
      have notFire : y.isFire g = false := by
        rw [Bool.eq_false_iff, ne_eq, Happening.isFire_iff]
        exact Ne.symm unfired.1
      rw [firesInTime, notFire, ih unfired.2, Bool.and_false, Bool.or_false]

theorem firesInTime_snoc_fire (still : moves since = 0) :
    firesInTime g (since ++ [.fire g]) = true := by
  induction since with
  | nil => simp [firesInTime, Happening.isFire]
  | cons y rest ih =>
      obtain ⟨notMove, restStill⟩ := still_cons still
      rw [List.cons_append, firesInTime, ih restStill, notMove, Bool.not_false, Bool.and_true,
        Bool.or_true]

theorem survivors_of_still (count : Nat) (still : moves since = 0) :
    survivors count since = [] := by
  induction since with
  | nil => rfl
  | cons y rest ih =>
      obtain ⟨notMove, restStill⟩ := still_cons still
      cases y with
      | submit work => cases notMove
      | cancel => cases notMove
      | fire g => exact ih restStill
      | complete g outcome => exact ih restStill
      | giveUp g => exact ih restStill

/-- Only a timer that fires adds a survivor. -/
theorem survivors_snoc (count : Nat) (notFire : ∀ g, x.isFire g = false) :
    survivors count (past ++ [x]) = survivors count past := by
  induction past generalizing count with
  | nil =>
      cases x with
      | submit work => rfl
      | cancel => rfl
      | fire g => exact absurd (notFire g) (by simp [Happening.isFire])
      | complete g outcome => rfl
      | giveUp g => rfl
  | cons y rest ih =>
      cases y <;> simp only [List.cons_append, survivors, firesInTime_snoc _ (notFire _), ih]

theorem survivors_snoc_fire (before : List (Happening ω ε α)) (work : ω) (count : Nat)
    (still : moves since = 0) (unfired : .fire (count + moves before + 1) ∉ since) :
    survivors count (before ++ .submit work :: since ++ [.fire (count + moves before + 1)]) =
      survivors count (before ++ .submit work :: since) ++
        [(count + moves before + 1, work)] := by
  induction before generalizing count with
  | nil =>
      have stillAfter : moves (since ++ [.fire (count + 1)]) = 0 := by
        rw [moves_snoc, still]
        rfl
      have late := firesInTime_of_not_mem unfired
      simp only [moves, List.countP_nil, Nat.add_zero] at late
      simp [survivors, moves, late, firesInTime_snoc_fire still, survivors_of_still _ still,
        survivors_of_still _ stillAfter]
  | cons y rest ih =>
      have sameFires (g k : Nat) :
          firesInTime g (rest ++ .submit work :: (since ++ [.fire k])) =
            firesInTime g (rest ++ .submit work :: since) := by
        rw [firesInTime_of_move g rfl, firesInTime_of_move g rfl]
      cases y with
      | submit work' =>
          rw [count_move rfl] at unfired ⊢
          have later := ih (count + 1) unfired
          rw [List.append_assoc, List.cons_append] at later ⊢
          simp only [List.cons_append, survivors, sameFires, later]
          split <;> rfl
      | cancel =>
          rw [count_move rfl] at unfired ⊢
          exact ih (count + 1) unfired
      | fire g => exact ih count unfired
      | complete g outcome => exact ih count unfired
      | giveUp g => exact ih count unfired

end Survivors

/-! ## The counter and the timer -/

variable {wording : ε → String} {past : List (Happening ω ε α)} {s : Scene ω ε α}

/-- How the counter, the timers and the launches go with what happened. -/
structure InStep (past : List (Happening ω ε α)) (s : Scene ω ε α) : Prop where
  count : s.coalescer.generation = moves past
  armed : s.coalescer.armed = s.timers.head?.map (·.1)
  timers : s.timers = [] ∨ ∃ work, s.timers = [(s.coalescer.generation, work)]
  waiting : ∀ g work, (g, work) ∈ s.timers ↔ Stands past g work (.fire g)
  launched : s.launched = survivors 0 past

namespace InStep

theorem start : InStep ([] : List (Happening ω ε α)) {} where
  count := rfl
  armed := rfl
  timers := .inl rfl
  waiting := by
    intro g work
    constructor
    · intro member
      cases member
    · intro waits
      exact absurd waits Stands.not_nil
  launched := rfl

/-- Without the timer that the coalescer holds there is none. -/
theorem disarm_timers (inStep : InStep past s) : s.disarm.timers = [] := by
  rcases inStep.timers with none_held | ⟨work, held⟩
  · simp [disarm, none_held]
  · simp [disarm, inStep.armed, held]

theorem submit_timers (inStep : InStep past s) (work : ω) :
    (s.submit work).timers = [(s.coalescer.generation + 1, work)] := by
  rw [Scene.submit, inStep.disarm_timers]
  rfl

theorem cancel_timers (inStep : InStep past s) : s.cancel.timers = [] :=
  inStep.disarm_timers

theorem of_mem_timers (inStep : InStep past s) {g : Nat} {work : ω}
    (member : (g, work) ∈ s.timers) :
    g = s.coalescer.generation ∧ s.timers = [(g, work)] := by
  rcases inStep.timers with none_held | ⟨held, timers⟩
  · rw [none_held] at member
    cases member
  · rw [timers, List.mem_singleton, Prod.mk.injEq] at member
    obtain ⟨rfl, rfl⟩ := member
    exact ⟨rfl, timers⟩

theorem submit (inStep : InStep past s) (work : ω) :
    InStep (past ++ [.submit work]) (s.submit work) where
  count := by
    rw [moves_snoc, ← inStep.count]
    rfl
  armed := by
    rw [inStep.submit_timers]
    rfl
  timers := by
    rw [inStep.submit_timers]
    exact .inr ⟨work, rfl⟩
  waiting := by
    intro g new
    rw [inStep.submit_timers, Stands.submit_iff, ← inStep.count]
    simp
  launched := by
    rw [survivors_snoc 0 fun _ => rfl]
    exact inStep.launched

theorem cancel (inStep : InStep past s) :
    InStep (past ++ [.cancel]) s.cancel where
  count := by
    rw [moves_snoc, ← inStep.count]
    rfl
  armed := by
    rw [inStep.cancel_timers]
    rfl
  timers := .inl inStep.cancel_timers
  waiting := by
    intro g work
    rw [inStep.cancel_timers]
    constructor
    · intro member
      cases member
    · intro waits
      exact absurd waits Stands.not_cancel
  launched := by
    rw [survivors_snoc 0 fun _ => rfl]
    exact inStep.launched

/-- A timer that the loop holds is the one that the coalescer holds, so that it launches. -/
theorem fire_eq (inStep : InStep past s) {g : Nat} {work : ω} (member : (g, work) ∈ s.timers) :
    s.fire g work =
      { s with
        coalescer := { s.coalescer with armed := none }
        timers := []
        running := s.running ++ [g]
        launched := s.launched ++ [(g, work)] } := by
  obtain ⟨rfl, timers⟩ := inStep.of_mem_timers member
  simp [fire, Coalescer.fire?, timers]

theorem fire (inStep : InStep past s) {g : Nat} {work : ω} (member : (g, work) ∈ s.timers) :
    InStep (past ++ [.fire g]) (s.fire g work) := by
  rw [inStep.fire_eq member]
  exact {
    count := by
      rw [moves_snoc]
      exact inStep.count
    armed := rfl
    timers := .inl rfl
    waiting := by
      intro k other
      constructor
      · intro impossible
        cases impossible
      · intro waits
        by_cases same : k = g
        · subst same
          exact absurd waits (Stands.not_breach rfl)
        · rw [Stands.snoc_iff rfl (by simpa using Ne.symm same),
            ← inStep.waiting, (inStep.of_mem_timers member).2] at waits
          simp [same] at waits
    launched := by
      obtain ⟨since, ⟨before, rfl, count, still⟩, unfired⟩ := (inStep.waiting g work).mp member
      have added := survivors_snoc_fire before work 0 still
      rw [Nat.zero_add, ← count] at added
      rw [added unfired, ← inStep.launched] }

/-- What is neither a move nor a timer changes nothing here. -/
theorem snoc (inStep : InStep past s) {x : Happening ω ε α} {s' : Scene ω ε α}
    (still : x.isMove = false) (notFire : ∀ g, x.isFire g = false)
    (generation : s'.coalescer.generation = s.coalescer.generation)
    (armed : s'.coalescer.armed = s.coalescer.armed) (timers : s'.timers = s.timers)
    (launched : s'.launched = s.launched) : InStep (past ++ [x]) s' where
  count := by
    rw [generation, moves_snoc, still]
    exact inStep.count
  armed := by
    rw [armed, timers]
    exact inStep.armed
  timers := by
    rw [timers, generation]
    exact inStep.timers
  waiting := by
    intro g work
    rw [timers, Stands.snoc_iff still (Happening.ne_fire (notFire g))]
    exact inStep.waiting g work
  launched := by
    rw [launched, survivors_snoc 0 notFire]
    exact inStep.launched

theorem step (inStep : InStep past s) {x : Happening ω ε α} {s' : Scene ω ε α}
    (stepped : Step wording s x s') : InStep (past ++ [x]) s' := by
  cases stepped with
  | submit work => exact inStep.submit work
  | cancel => exact inStep.cancel
  | fire member => exact inStep.fire member
  | complete o running =>
      exact inStep.snoc rfl (fun _ => rfl) (Coalescer.settle_generation o)
        (Coalescer.settle_armed o) rfl rfl
  | giveUp made =>
      exact inStep.snoc rfl (fun _ => rfl) (Coalescer.giveUp_generation _ _)
        (Coalescer.giveUp_armed _ _) rfl rfl

end InStep

theorem inStep_of_run (ran : run wording past = some s) : InStep past s :=
  run_induction .start (fun _ _ _ _ _ inStep stepped => inStep.step stepped) ran

/-- At most one timer is armed, and it has the number that the counter has; one is armed exactly
while the newest move is a submission whose timer has not fired; the counter counts the moves; no
timer that fires is out of date; and what is launched is exactly what survives, in order. -/
theorem launches_survivors (ran : run wording past = some s) :
    s.timers.length ≤ 1 ∧
      (∀ g work, (g, work) ∈ s.timers → g = s.coalescer.generation) ∧
      (s.coalescer.pending = true ↔ ∃ g work, Stands past g work (.fire g)) ∧
      s.coalescer.generation = moves past ∧
      (∀ g work, (g, work) ∈ s.timers → s.coalescer.fire? g ≠ none) ∧
      s.launched = survivors 0 past := by
  have inStep := inStep_of_run ran
  refine ⟨?_, ?_, ?_, inStep.count, ?_, inStep.launched⟩
  · rcases inStep.timers with timers | ⟨work, timers⟩ <;> simp [timers]
  · intro g work member
    exact (inStep.of_mem_timers member).1
  · simp only [Coalescer.pending, inStep.armed, ← inStep.waiting]
    rcases inStep.timers with timers | ⟨work, timers⟩ <;> simp [timers]
  · intro g work member
    simp [Coalescer.fire?, (inStep.of_mem_timers member).1]

/-- A burst, a submission that is called off before its timer fires, and one that still waits. -/
def burst : List (Happening String String Nat) :=
  [.submit "r", .submit "ru", .submit "rug", .fire 3, .submit "rugs", .complete 3 (.ok 7), .cancel,
    .submit "lamp", .fire 6, .submit "lamps"]

theorem launches_survivors_of_burst :
    ∃ s, run id burst = some s ∧ s.launched = [(3, "rug"), (6, "lamp")] ∧
      s.timers.length ≤ 1 ∧ s.coalescer.generation = moves burst ∧
      s.launched = survivors 0 burst := by
  have ran : run id burst = some _ := rfl
  obtain ⟨single, -, -, count, -, launched⟩ := launches_survivors ran
  exact ⟨_, ran, rfl, single, count, launched⟩

end Bazaar.Scene
