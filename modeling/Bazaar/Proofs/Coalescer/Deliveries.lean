import Bazaar.Proofs.Coalescer.Launches

/-!
# What a field delivers

The outcome of a run goes to the caller exactly when the submission is still the newest move and the
caller still waits for it.  A submission that was overtaken or called off gets nothing any more, and
nothing is delivered twice.
-/

namespace Bazaar.Scene

/-! ## Who gets an outcome -/

/-- Whether a submission is the newest move and its caller still waits. -/
def Wanted (past : List (Happening ω ε α)) (submission : Nat) : Prop :=
  ∃ work, Stands past submission work (.giveUp submission)

/-- Whether the run of a submission ended with an outcome while the submission was wanted. -/
def Delivered (past : List (Happening ω ε α)) (submission : Nat) (outcome : Except ε α) : Prop :=
  ∃ before since, past = before ++ .complete submission outcome :: since ∧
    Wanted before submission

/-- Whether a submission that was made can still get an outcome. -/
def Deliverable (wording : ε → String) (past : List (Happening ω ε α)) (submission : Nat) : Prop :=
  ∃ s more s' outcome, run wording past = some s ∧ s.coalescer.promise? submission ≠ none ∧
    run wording (past ++ more) = some s' ∧ (submission, outcome) ∈ s'.deliveries ∧
      (submission, outcome) ∉ s.deliveries

section Past

variable {past more : List (Happening ω ε α)} {x : Happening ω ε α} {g k : Nat} {o : Except ε α}

theorem Wanted.eq_moves (wanted : Wanted past g) : g = moves past := by
  obtain ⟨work, stands⟩ := wanted
  exact stands.eq_moves

theorem wanted_submit_iff {work : ω} : Wanted (past ++ [.submit work]) g ↔ g = moves past + 1 := by
  simp [Wanted, Stands.submit_iff]

theorem not_wanted_cancel : ¬Wanted (past ++ [.cancel]) g := by
  rintro ⟨work, stands⟩
  exact Stands.not_cancel stands

theorem not_wanted_giveUp : ¬Wanted (past ++ [.giveUp g]) g := by
  rintro ⟨work, stands⟩
  exact Stands.not_breach rfl stands

theorem wanted_snoc_iff (still : x.isMove = false) (differs : x ≠ .giveUp g) :
    Wanted (past ++ [x]) g ↔ Wanted past g := by
  simp only [Wanted, Stands.snoc_iff still differs]

/-- Whoever is not wanted any more is never wanted again. -/
theorem Wanted.of_append (wanted : Wanted (past ++ more) g) (made : g ≤ moves past) :
    Wanted past g := by
  induction more using List.reverseRecOn with
  | nil => rwa [List.append_nil] at wanted
  | append_singleton more x ih =>
      refine ih ?_
      rw [← List.append_assoc] at wanted
      cases x with
      | submit work =>
          have count := wanted_submit_iff.mp wanted
          rw [moves_append] at count
          omega
      | cancel => exact absurd wanted not_wanted_cancel
      | fire k => exact (wanted_snoc_iff rfl (by simp)).mp wanted
      | complete k o => exact (wanted_snoc_iff rfl (by simp)).mp wanted
      | giveUp k =>
          by_cases same : k = g
          · subst same
            exact absurd wanted not_wanted_giveUp
          · exact (wanted_snoc_iff rfl (by simpa using same)).mp wanted

theorem delivered_snoc_iff :
    Delivered (past ++ [x]) g o ↔ Delivered past g o ∨ (x = .complete g o ∧ Wanted past g) := by
  constructor
  · rintro ⟨before, since, split, wanted⟩
    rcases List.eq_nil_or_concat since with rfl | ⟨earlier, last, rfl⟩
    · obtain ⟨rfl, sameLast⟩ := List.append_inj' split rfl
      exact .inr ⟨by simpa using sameLast, wanted⟩
    · rw [List.concat_eq_append, ← List.cons_append, ← List.append_assoc] at split
      obtain ⟨rfl, -⟩ := List.append_inj' split rfl
      exact .inl ⟨before, earlier, rfl, wanted⟩
  · rintro (⟨before, since, rfl, wanted⟩ | ⟨rfl, wanted⟩)
    · exact ⟨before, since ++ [x], by simp, wanted⟩
    · exact ⟨past, [], rfl, wanted⟩

theorem delivered_snoc_iff_of_ne (differs : ∀ g o, x ≠ .complete g o) :
    Delivered (past ++ [x]) g o ↔ Delivered past g o := by
  simp [delivered_snoc_iff, differs g o]

/-- What is delivered later was delivered before or is still wanted. -/
theorem Delivered.of_append (delivered : Delivered (past ++ more) g o) (made : g ≤ moves past) :
    Delivered past g o ∨ Wanted past g := by
  induction more using List.reverseRecOn with
  | nil =>
      rw [List.append_nil] at delivered
      exact .inl delivered
  | append_singleton more x ih =>
      rw [← List.append_assoc, delivered_snoc_iff] at delivered
      rcases delivered with earlier | ⟨-, wanted⟩
      · exact ih earlier
      · exact .inr (wanted.of_append made)

end Past

/-! ## The promises and the runs in flight -/

/-- The submissions whose runs have not ended: those with a timer and those in flight. -/
def underway (s : Scene ω ε α) : List Nat :=
  s.timers.map (·.1) ++ s.running

variable {wording : ε → String} {past : List (Happening ω ε α)} {s : Scene ω ε α} {g : Nat}

theorem mem_deliveries_complete {k : Nat} {o o' : Except ε α} :
    (k, o') ∈ (s.complete wording g o).deliveries ↔
      (k, o') ∈ s.deliveries ∨ (k = g ∧ o' = o ∧ s.coalescer.delivers g = true) := by
  unfold complete
  split
  · rename_i delivers
    simp [delivers]
  · rename_i not_delivers
    simp [not_delivers]

/-- How the promises, the runs in flight and the deliveries go with what happened. -/
structure Fair (past : List (Happening ω ε α)) (s : Scene ω ε α) : Prop where
  made_le : ∀ g, s.coalescer.promise? g ≠ none → g ≤ s.coalescer.generation
  wanted_of_pending : s.coalescer.promise? s.coalescer.generation = some .pending →
    Wanted past s.coalescer.generation
  of_wanted : ∀ g, Wanted past g →
    s.coalescer.promise? g = some .pending ∨ ∃ o, (g, o) ∈ s.deliveries
  resolved : ∀ g o, s.coalescer.promise? g = some (.resolved o) ↔ (g, o) ∈ s.deliveries
  once : (s.deliveries.map (·.1)).Nodup
  exact : ∀ g o, (g, o) ∈ s.deliveries ↔ Delivered past g o
  underway_le : ∀ g, g ∈ s.underway → g ≤ s.coalescer.generation
  underway_once : s.underway.Nodup
  undelivered : ∀ g, g ∈ s.underway → ∀ o, (g, o) ∉ s.deliveries

namespace Fair

theorem start : Fair ([] : List (Happening ω ε α)) {} where
  made_le := by
    intro g made
    exact absurd rfl made
  wanted_of_pending := by
    intro impossible
    cases impossible
  of_wanted := by
    rintro g ⟨work, stands⟩
    exact absurd stands Stands.not_nil
  resolved := by simp [Coalescer.promise?]
  once := List.nodup_nil
  exact := by
    intro g o
    constructor
    · intro impossible
      cases impossible
    · rintro ⟨before, since, split, -⟩
      simp at split
  underway_le := by simp [underway]
  underway_once := List.nodup_nil
  undelivered := by simp

/-- The next number has no promise yet. -/
theorem not_made (fair : Fair past s) :
    s.coalescer.promise? (s.coalescer.generation + 1) = none := by
  by_contra made
  have bound := fair.made_le _ made
  omega

theorem le_of_delivered (fair : Fair past s) {o : Except ε α} (delivered : (g, o) ∈ s.deliveries) :
    g ≤ s.coalescer.generation := by
  refine fair.made_le g ?_
  rw [(fair.resolved g o).mpr delivered]
  exact Option.some_ne_none _

theorem running_le (fair : Fair past s) (running : g ∈ s.running) :
    g ≤ s.coalescer.generation :=
  fair.underway_le g (List.mem_append_right _ running)

theorem running_once (fair : Fair past s) : s.running.Nodup :=
  (List.nodup_append.mp fair.underway_once).2.1

theorem running_undelivered (fair : Fair past s) (running : g ∈ s.running) (o : Except ε α) :
    (g, o) ∉ s.deliveries :=
  fair.undelivered g (List.mem_append_right _ running) o

theorem submit (inStep : InStep past s) (fair : Fair past s) (work : ω) :
    Fair (past ++ [.submit work]) (s.submit work) where
  made_le := by
    intro g made
    show g ≤ s.coalescer.generation + 1
    by_cases old : s.coalescer.promise? g = none
    · rw [coalescer_submit, Coalescer.promise?_submit, old, Option.none_or] at made
      split at made
      · exact Nat.le_of_eq ‹_›
      · exact absurd rfl made
    · exact Nat.le_succ_of_le (fair.made_le g old)
  wanted_of_pending := by
    intro _
    exact wanted_submit_iff.mpr (congrArg (· + 1) inStep.count)
  of_wanted := by
    intro g wanted
    rw [wanted_submit_iff, ← inStep.count] at wanted
    left
    rw [wanted, coalescer_submit, Coalescer.promise?_submit, fair.not_made, Option.none_or,
      if_pos rfl]
  resolved := by
    intro g o
    refine Iff.trans ?_ (fair.resolved g o)
    rw [coalescer_submit, Coalescer.promise?_submit]
    cases s.coalescer.promise? g with
    | none => simp
    | some p => simp
  once := fair.once
  exact := by
    intro g o
    rw [delivered_snoc_iff_of_ne (by simp)]
    exact fair.exact g o
  underway_le := by
    intro g member
    show g ≤ s.coalescer.generation + 1
    rw [underway, inStep.submit_timers] at member
    rcases List.mem_cons.mp member with rfl | running
    · exact Nat.le_refl _
    · exact Nat.le_succ_of_le (fair.running_le running)
  underway_once := by
    rw [underway, inStep.submit_timers]
    refine List.nodup_cons.mpr ⟨fun running => ?_, fair.running_once⟩
    exact absurd (fair.running_le running) (Nat.not_succ_le_self _)
  undelivered := by
    intro g member o
    rw [underway, inStep.submit_timers] at member
    rcases List.mem_cons.mp member with rfl | running
    · exact fun delivered => absurd (fair.le_of_delivered delivered) (Nat.not_succ_le_self _)
    · exact fair.running_undelivered running o

theorem cancel (inStep : InStep past s) (fair : Fair past s) :
    Fair (past ++ [.cancel]) s.cancel where
  made_le := by
    intro g made
    exact Nat.le_succ_of_le (fair.made_le g made)
  wanted_of_pending := by
    intro pending
    have notMade : s.coalescer.cancel.promise? (s.coalescer.generation + 1) = none := fair.not_made
    rw [coalescer_cancel, show s.coalescer.cancel.generation = s.coalescer.generation + 1 from rfl,
      notMade] at pending
    cases pending
  of_wanted := by
    intro g wanted
    exact absurd wanted not_wanted_cancel
  resolved := fair.resolved
  once := fair.once
  exact := by
    intro g o
    rw [delivered_snoc_iff_of_ne (by simp)]
    exact fair.exact g o
  underway_le := by
    intro g member
    rw [underway, inStep.cancel_timers] at member
    exact Nat.le_succ_of_le (fair.running_le member)
  underway_once := by
    rw [underway, inStep.cancel_timers]
    exact fair.running_once
  undelivered := by
    intro g member o
    rw [underway, inStep.cancel_timers] at member
    exact fair.running_undelivered member o

theorem fire (inStep : InStep past s) (fair : Fair past s) {work : ω}
    (member : (g, work) ∈ s.timers) : Fair (past ++ [.fire g]) (s.fire g work) := by
  have before : s.underway = g :: s.running := by
    rw [underway, (inStep.of_mem_timers member).2]
    rfl
  have after : s.underway.Perm (s.fire g work).underway := by
    rw [before, inStep.fire_eq member]
    exact (List.perm_append_singleton g s.running).symm
  exact {
    made_le := by
      rw [inStep.fire_eq member]
      exact fair.made_le
    wanted_of_pending := by
      rw [inStep.fire_eq member]
      intro pending
      exact (wanted_snoc_iff rfl (by simp)).mpr (fair.wanted_of_pending pending)
    of_wanted := by
      rw [inStep.fire_eq member]
      intro k wanted
      exact fair.of_wanted k ((wanted_snoc_iff rfl (by simp)).mp wanted)
    resolved := by
      rw [inStep.fire_eq member]
      exact fair.resolved
    once := by
      rw [inStep.fire_eq member]
      exact fair.once
    exact := by
      rw [inStep.fire_eq member]
      intro k o
      rw [delivered_snoc_iff_of_ne (by simp)]
      exact fair.exact k o
    underway_le := by
      intro k underway
      rw [show (s.fire g work).coalescer.generation = s.coalescer.generation by
        rw [inStep.fire_eq member]]
      exact fair.underway_le k (after.mem_iff.mpr underway)
    underway_once := after.nodup_iff.mp fair.underway_once
    undelivered := by
      intro k underway
      rw [show (s.fire g work).deliveries = s.deliveries by rw [inStep.fire_eq member]]
      exact fair.undelivered k (after.mem_iff.mpr underway) }

theorem giveUp (fair : Fair past s) (g : Nat) :
    Fair (past ++ [.giveUp g]) (s.giveUp g) where
  made_le := by
    intro k made
    rw [coalescer_giveUp, ne_eq, Coalescer.promise?_giveUp_eq_none_iff] at made
    rw [coalescer_giveUp, Coalescer.giveUp_generation]
    exact fair.made_le k made
  wanted_of_pending := by
    intro pending
    simp only [coalescer_giveUp, Coalescer.giveUp_generation] at pending ⊢
    by_cases same : s.coalescer.generation = g
    · rw [same] at pending
      exact absurd pending (Coalescer.promise?_giveUp_self _ g)
    · rw [Coalescer.promise?_giveUp_of_ne _ same] at pending
      exact (wanted_snoc_iff rfl (by simpa using Ne.symm same)).mpr
        (fair.wanted_of_pending pending)
  of_wanted := by
    intro k wanted
    by_cases same : k = g
    · subst same
      exact absurd wanted not_wanted_giveUp
    · rw [coalescer_giveUp, Coalescer.promise?_giveUp_of_ne _ same]
      exact fair.of_wanted k ((wanted_snoc_iff rfl (by simpa using Ne.symm same)).mp wanted)
  resolved := by
    intro k o
    rw [coalescer_giveUp, Coalescer.promise?_giveUp_eq_resolved_iff]
    exact fair.resolved k o
  once := fair.once
  exact := by
    intro k o
    rw [delivered_snoc_iff_of_ne (by simp)]
    exact fair.exact k o
  underway_le := by
    intro k member
    rw [coalescer_giveUp, Coalescer.giveUp_generation]
    exact fair.underway_le k member
  underway_once := fair.underway_once
  undelivered := fair.undelivered

/-- The outcome of a run is delivered exactly if the submission is wanted. -/
theorem delivers_iff_wanted (inStep : InStep past s) (fair : Fair past s)
    (running : g ∈ s.running) : s.coalescer.delivers g = true ↔ Wanted past g := by
  rw [Coalescer.delivers_iff]
  constructor
  · rintro ⟨rfl, pending⟩
    exact fair.wanted_of_pending pending
  · intro wanted
    refine ⟨wanted.eq_moves.trans inStep.count.symm, ?_⟩
    rcases fair.of_wanted g wanted with pending | ⟨o, delivered⟩
    · exact pending
    · exact absurd delivered (fair.running_undelivered running o)

/-- What is left under way when a run ends is without its submission. -/
theorem mem_underway_complete (fair : Fair past s) (running : g ∈ s.running) {o : Except ε α}
    {k : Nat} (member : k ∈ (s.complete wording g o).underway) : k ∈ s.underway ∧ k ≠ g := by
  obtain ⟨-, runningOnce, apart⟩ := List.nodup_append.mp fair.underway_once
  rcases List.mem_append.mp member with timer | rest
  · exact ⟨List.mem_append_left _ timer, apart k timer g running⟩
  · rw [show (s.complete wording g o).running = s.running.erase g from rfl,
      runningOnce.mem_erase_iff] at rest
    exact ⟨List.mem_append_right _ rest.2, rest.1⟩

theorem complete (inStep : InStep past s) (fair : Fair past s) (running : g ∈ s.running)
    (o : Except ε α) : Fair (past ++ [.complete g o]) (s.complete wording g o) where
  made_le := by
    intro k made
    rw [coalescer_complete, Coalescer.settle_generation]
    by_cases own : k = g ∧ s.coalescer.delivers g = true
    · rw [own.1]
      exact fair.running_le running
    · refine fair.made_le k ?_
      rwa [coalescer_complete, Coalescer.promise?_settle, if_neg own] at made
  wanted_of_pending := by
    intro pending
    rw [coalescer_complete, Coalescer.settle_generation] at pending ⊢
    rw [Coalescer.promise?_settle] at pending
    split at pending
    · cases pending
    · exact (wanted_snoc_iff rfl (by simp)).mpr (fair.wanted_of_pending pending)
  of_wanted := by
    intro k wanted
    simp only [mem_deliveries_complete, coalescer_complete, Coalescer.promise?_settle]
    by_cases own : k = g ∧ s.coalescer.delivers g = true
    · exact .inr ⟨o, .inr ⟨own.1, rfl, own.2⟩⟩
    · rw [if_neg own]
      rcases fair.of_wanted k ((wanted_snoc_iff rfl (by simp)).mp wanted) with
        pending | ⟨o', delivered⟩
      · exact .inl pending
      · exact .inr ⟨o', .inl delivered⟩
  resolved := by
    intro k o'
    rw [mem_deliveries_complete, coalescer_complete, Coalescer.promise?_settle]
    by_cases own : k = g ∧ s.coalescer.delivers g = true
    · have fresh : (k, o') ∉ s.deliveries := own.1 ▸ fair.running_undelivered running o'
      simp [own, own.1 ▸ fresh, eq_comm]
    · rw [if_neg own, fair.resolved]
      constructor
      · exact .inl
      · rintro (delivered | ⟨same, -, delivers⟩)
        · exact delivered
        · exact absurd ⟨same, delivers⟩ own
  once := by
    rw [Scene.complete]
    split
    · rw [List.map_append, List.nodup_append]
      refine ⟨fair.once, by simp, ?_⟩
      intro k earlier k' new same
      obtain ⟨⟨k, o'⟩, delivered, rfl⟩ := List.mem_map.mp earlier
      obtain rfl : k' = g := by simpa using new
      exact fair.running_undelivered running o' (same ▸ delivered)
    · exact fair.once
  exact := by
    intro k o'
    rw [mem_deliveries_complete, fair.exact, delivered_snoc_iff,
      fair.delivers_iff_wanted inStep running]
    constructor
    · rintro (earlier | ⟨rfl, rfl, wanted⟩)
      · exact .inl earlier
      · exact .inr ⟨rfl, wanted⟩
    · rintro (earlier | ⟨same, wanted⟩)
      · exact .inl earlier
      · cases same
        exact .inr ⟨rfl, rfl, wanted⟩
  underway_le := by
    intro k member
    rw [coalescer_complete, Coalescer.settle_generation]
    exact fair.underway_le k (fair.mem_underway_complete running member).1
  underway_once :=
    fair.underway_once.sublist (List.erase_sublist.append_left _)
  undelivered := by
    intro k member o' delivered
    obtain ⟨before, differs⟩ := fair.mem_underway_complete running member
    rcases mem_deliveries_complete.mp delivered with earlier | ⟨same, -, -⟩
    · exact fair.undelivered k before o' earlier
    · exact differs same

theorem step (inStep : InStep past s) (fair : Fair past s) {x : Happening ω ε α}
    {s' : Scene ω ε α} (stepped : Step wording s x s') : Fair (past ++ [x]) s' := by
  cases stepped with
  | submit work => exact fair.submit inStep work
  | cancel => exact fair.cancel inStep
  | fire member => exact fair.fire inStep member
  | complete o running => exact fair.complete inStep running o
  | giveUp made => exact fair.giveUp _

end Fair

theorem fair_of_run (ran : run wording past = some s) : Fair past s :=
  run_induction .start
    (fun _ _ _ _ ran fair stepped => fair.step (inStep_of_run ran) stepped) ran

/-! ## Deliveries -/

theorem wanted_of_deliverable (deliverable : Deliverable wording past g) : Wanted past g := by
  obtain ⟨s, more, s', o, ran, made, ranOn, delivered, new⟩ := deliverable
  have fair := fair_of_run ran
  have count := (inStep_of_run ran).count
  have later := ((fair_of_run ranOn).exact g o).mp delivered
  rcases later.of_append (count ▸ fair.made_le g made) with earlier | wanted
  · exact absurd ((fair.exact g o).mpr earlier) new
  · exact wanted

/-- Only the end of a run delivers, and only to a caller that still waits. -/
theorem Step.deliveries {x : Happening ω ε α} {s' : Scene ω ε α}
    (stepped : Step wording s x s') :
    s'.deliveries = s.deliveries ∨
      ∃ g o, x = .complete g o ∧ s.coalescer.promise? g = some .pending ∧
        s'.deliveries = s.deliveries ++ [(g, o)] := by
  cases stepped with
  | submit work => exact .inl rfl
  | cancel => exact .inl rfl
  | fire member =>
      left
      rw [Scene.fire]
      split <;> rfl
  | @complete g o running =>
      cases delivers : s.coalescer.delivers g with
      | false => exact .inl (by simp [Scene.complete, delivers])
      | true =>
          have pending := ((Coalescer.delivers_iff _).mp delivers).2
          exact .inr ⟨g, o, rfl, pending, by simp [Scene.complete, delivers]⟩
  | giveUp made => exact .inl rfl

/-- A promise that is resolved or abandoned stays as it is. -/
theorem Step.promise? {x : Happening ω ε α} {s' : Scene ω ε α}
    (stepped : Step wording s x s') {p : Promise (Except ε α)}
    (held : s.coalescer.promise? g = some p) (done : p ≠ .pending) :
    s'.coalescer.promise? g = some p := by
  have notPending : s.coalescer.promise? g ≠ some .pending := by
    rw [held]
    simpa using done
  cases stepped with
  | submit work => rw [coalescer_submit, Coalescer.promise?_submit, held, Option.some_or]
  | cancel => exact held
  | fire member =>
      rw [Scene.fire, Coalescer.fire?]
      split
      · exact held
      · rename_i fired
        obtain ⟨-, same⟩ := Option.ite_none_right_eq_some.mp fired
        cases same
        exact held
  | complete o running =>
      rw [coalescer_complete, Coalescer.promise?_settle, if_neg]
      · exact held
      · rintro ⟨rfl, delivers⟩
        exact notPending ((Coalescer.delivers_iff _).mp delivers).2
  | giveUp made =>
      rw [coalescer_giveUp, Coalescer.promise?_giveUp, if_neg]
      · exact held
      · rintro ⟨rfl, awaited⟩
        exact notPending ((Coalescer.isAwaited_iff _).mp awaited)

/-- A submission gets the outcome of its own run, once, exactly if the run ends while nothing was
submitted or cancelled since and the caller has not given up.  What is not wanted any more never
gets anything, at most one submission can still get something, and what is delivered goes to a
caller that waits and is final. -/
theorem deliveries_wanted (ran : run wording past = some s) :
    (∀ g o, (g, o) ∈ s.deliveries ↔ Delivered past g o) ∧
      (s.deliveries.map (·.1)).Nodup ∧
      (∀ g o, s.coalescer.promise? g = some (.resolved o) ↔ (g, o) ∈ s.deliveries) ∧
      (∀ g, ¬Wanted past g → ¬Deliverable wording past g) ∧
      (∀ g k, Deliverable wording past g → Deliverable wording past k → g = k) ∧
      ∀ x s', s.step? wording x = some s' →
        (s'.deliveries = s.deliveries ∨
          ∃ g o, x = .complete g o ∧ s.coalescer.promise? g = some .pending ∧
            s'.deliveries = s.deliveries ++ [(g, o)]) ∧
          ∀ g p, s.coalescer.promise? g = some p → p ≠ .pending →
            s'.coalescer.promise? g = some p := by
  have fair := fair_of_run ran
  refine ⟨fair.exact, fair.once, fair.resolved, ?_, ?_, ?_⟩
  · intro g unwanted deliverable
    exact unwanted (wanted_of_deliverable deliverable)
  · intro g k first second
    rw [(wanted_of_deliverable first).eq_moves, (wanted_of_deliverable second).eq_moves]
  · intro x s' stepped
    have step := step_of_step? stepped
    exact ⟨step.deliveries, fun g p held done => step.promise? held done⟩

/-- Runs that overlap: one is overtaken, one ends with an error, the caller of one gives up, and one
is called off in flight. -/
def overlap : List (Happening String String Nat) :=
  [.submit "rug", .fire 1, .submit "rugs", .fire 2, .complete 1 (.ok 7),
    .complete 2 (.error "late"), .submit "lamp", .fire 3, .giveUp 3, .complete 3 (.ok 2),
    .submit "lamps", .fire 4, .cancel, .complete 4 (.ok 5)]

theorem deliveries_wanted_of_overlap :
    ∃ s, run id overlap = some s ∧ s.deliveries = [(2, .error "late")] ∧
      Delivered overlap 2 (.error "late") ∧ ¬Delivered overlap 1 (.ok 7) ∧
      ¬Deliverable id overlap 3 ∧ ¬Deliverable id overlap 4 := by
  have ran : run id overlap = some _ := rfl
  obtain ⟨exactly, -, -, never, -⟩ := deliveries_wanted ran
  refine ⟨_, ran, rfl, (exactly 2 _).mp List.mem_cons_self, ?_, ?_, ?_⟩
  · intro delivered
    cases (exactly 1 _).mpr delivered with
    | tail _ impossible => cases impossible
  · refine never 3 fun wanted => ?_
    cases wanted.eq_moves
  · refine never 4 fun wanted => ?_
    cases wanted.eq_moves

end Bazaar.Scene
