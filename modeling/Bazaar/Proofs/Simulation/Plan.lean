import Bazaar.Proofs.Service.Plan
import Bazaar.Proofs.Simulation.Parts
import Bazaar.Simulation.Call

/-!
# Plans in a simulation

A simulation that carries out a plan gives the caller what the plan gives: the order in which the
simulation lets the parts take their turns is one among all orders.
-/

namespace Bazaar.Simulation

variable {α : Type} {start : ProcessId → Option (Course α)} {parts : List ProcessId}
  {s : Simulation α}

/-! ## Between calls -/

/-- Whether a process has yet to begin. -/
def Unborn (s : Simulation α) : ProcessId → Prop
  | .caller => True
  | .part number => s.parts ≤ number
  | .run .. => False

/-- A simulation whose caller waits for nothing. -/
structure Between (s : Simulation α) : Prop where
  proceed : ∀ p rest, .proceed p rest ∈ s.timeline.events → ¬ s.Unborn p
  exchange : ∀ x ∈ s.exchanges, ¬ s.Unborn x.process
  ended : ∀ p outcome, (p, outcome) ∈ s.ended → ¬ s.Unborn p
  joined : ∀ p, .joined p ∈ s.timeline.events → (s.ended.lookup p).isSome = true
  idle : .wake ∉ s.timeline.events
  waits : s.waiting.processes = []

theorem between_of_new (script : Script) (draws : List Float) :
    Between ({ script := script, draws := draws } : Simulation α) := by
  constructor <;> simp [Timeline.events]

/-- Tasks for processes that have yet to begin can be served. -/
theorem Between.serves (between : Between s)
    (unborn : ∀ p task, start p = some task → s.Unborn p) (number : Nat) {waiting : Waiting}
    (awaited : ∀ p ∈ parts, p ∈ waiting.processes) {awake : Bool}
    (asleep : awake = true → waiting.processes = []) :
    Serves start parts
      { s with parts := number, waiting := waiting, awake := awake } := by
  have free {p : ProcessId} {rest : Course α} (born : ¬ s.Unborn p) : Follows start p rest :=
    fun task begun => absurd (unborn p task begun) born
  have runs {field submission : Nat} {work : Course α} :
      Follows start (.run field submission) work := free id
  constructor
  · intro e member
    cases e with
    | proceed p rest => exact free (between.proceed p rest member)
    | fire field submission work => exact runs
    | launch field submission work => exact runs
    | joined p => exact between.joined p member
    | wake => exact absurd member between.idle
    | _ => trivial
  · exact fun x member d => free (between.exchange x member)
  · exact fun p outcome member => free (between.ended p outcome member)
  · exact fun _ p member => .inl (awaited p member)
  · exact asleep

/-! ## Parts of a call -/

/-- The tasks of parts by their processes. -/
def startOf (first : Nat) (tasks : List (Course α)) : ProcessId → Option (Course α)
  | .part number => if first ≤ number then tasks[number - first]? else none
  | _ => none

theorem startOf_part (first i : Nat) (tasks : List (Course α)) :
    startOf first tasks (.part (first + i)) = tasks[i]? := by
  simp [startOf]

/-- Processes begin with their tasks in the next turn. -/
def beginAll (s : Simulation α) (begun : List (ProcessId × Course α)) : Simulation α :=
  begun.foldl (fun s (p, task) => s.soon 0 (.proceed p task)) s

theorem Serves.beginAll (serves : Serves start parts s) {begun : List (ProcessId × Course α)}
    (own : ∀ p task, (p, task) ∈ begun → start p = some task) :
    Serves start parts (s.beginAll begun) := by
  induction begun generalizing s with
  | nil => exact serves
  | cons first begun ih =>
      obtain ⟨p, task⟩ := first
      refine ih ?_ fun q t member => own q t (List.mem_cons_of_mem _ member)
      refine serves.soon (e := .proceed p task) 0 fun t started => ?_
      rw [own p task List.mem_cons_self] at started
      rw [← Option.some.inj started]
      exact .refl

theorem beginAll_waiting (begun : List (ProcessId × Course α)) (s : Simulation α)
    (waiting : Waiting) (awake : Bool) :
    { s.beginAll begun with waiting := waiting, awake := awake } =
      beginAll { s with waiting := waiting, awake := awake } begun := by
  induction begun generalizing s with
  | nil => rfl
  | cons first begun ih => exact ih (s.soon 0 (.proceed first.1 first.2))

/-- The processes of parts. -/
def partsFrom (first : Nat) (tasks : List (Course α)) : List ProcessId :=
  (List.range tasks.length).map fun i => ProcessId.part (first + i)

theorem startOf_of_mem_zip {first : Nat} {tasks : List (Course α)} {p : ProcessId}
    {task : Course α} (member : (p, task) ∈ (partsFrom first tasks).zip tasks) :
    startOf first tasks p = some task := by
  obtain ⟨i, found⟩ := List.getElem?_of_mem member
  obtain ⟨isPart, isTask⟩ := List.getElem?_zip_eq_some.mp found
  have inRange : i < tasks.length := (List.getElem?_eq_some_iff.mp isTask).1
  rw [partsFrom, List.getElem?_map, List.getElem?_range inRange] at isPart
  obtain rfl : .part (first + i) = p := Option.some.inj isPart
  rw [startOf_part, isTask]

theorem unborn_of_startOf {s : Simulation α} {tasks : List (Course α)} {p : ProcessId}
    {task : Course α} (begun : startOf s.parts tasks p = some task) : s.Unborn p := by
  cases p with
  | part number =>
      by_cases later : s.parts ≤ number
      · exact later
      · rw [startOf, if_neg later] at begun
        cases begun
  | _ => cases begun

/-- A simulation whose caller has begun parts and waited for them. -/
def awaitAll (s : Simulation α) (tasks : List (Course α)) (impatient : Bool) : Simulation α :=
  await (beginAll { s with parts := s.parts + tasks.length, waiting := {} }
    ((partsFrom s.parts tasks).zip tasks)) (partsFrom s.parts tasks) impatient

theorem performAll_eq (s : Simulation α) (tasks : List (Course α)) (impatient : Bool) :
    s.performAll tasks impatient =
      match (s.awaitAll tasks impatient).waiting.raised with
      | some raised => (.error raised, s.awaitAll tasks impatient)
      | none =>
        (.ok ((partsFrom s.parts tasks).map fun p =>
          ((s.awaitAll tasks impatient).ended.lookup p).getD (.error stalled)),
         s.awaitAll tasks impatient) :=
  rfl

/-- Parts are served while the caller waits for them. -/
theorem serves_awaitAll (between : Between s) {tasks : List (Course α)} (some_task : tasks ≠ [])
    (impatient : Bool) :
    Serves (startOf s.parts tasks) (partsFrom s.parts tasks) (s.awaitAll tasks impatient) := by
  have some_part : (partsFrom s.parts tasks).isEmpty ≠ true := by
    simpa [partsFrom] using some_task
  have waits : Serves (startOf s.parts tasks) (partsFrom s.parts tasks) { s with
      parts := s.parts + tasks.length
      waiting := ⟨partsFrom s.parts tasks, impatient, none⟩
      awake := false } := by
    apply between.serves
    · exact fun p task => unborn_of_startOf
    · exact fun p member => member
    · exact nofun
  have begun := waits.beginAll fun p task => startOf_of_mem_zip
  have same := beginAll_waiting ((partsFrom s.parts tasks).zip tasks)
    { s with parts := s.parts + tasks.length, waiting := {} }
    ⟨partsFrom s.parts tasks, impatient, none⟩ false
  rw [awaitAll, await, if_neg some_part, rest]
  apply Serves.runUntil
  exact (congrArg (Serves _ _) same).mpr begun

/-- A process that has ended did so as its task ends on some supply. -/
theorem Serves.exists_supply {p : ProcessId} {task : Course α} {outcome : Except Raised α}
    (serves : Serves start parts s) (begun : start p = some task)
    (ended : s.ended.lookup p = some outcome) :
    ∃ supply, (task.run supply {}).result = outcome := by
  obtain ⟨before, behind, parted, -⟩ := List.lookup_eq_some_iff.mp ended
  have member : (p, outcome) ∈ s.ended := by simp [parted]
  exact Task.exists_supply (serves.ended p outcome member task begun) {}

/-- Once the caller is woken without an error, every part has ended as its task ends on some
supply. -/
theorem Serves.exists_supply_of_part {first i : Nat} {tasks : List (Course α)} {task : Course α}
    (serves : Serves (startOf first tasks) (partsFrom first tasks) s)
    (noError : s.waiting.raised = none) (woken : s.awake = true) (found : tasks[i]? = some task) :
    ∃ supply, (task.run supply {}).result =
      (s.ended.lookup (.part (first + i))).getD (.error stalled) := by
  have isPart : .part (first + i) ∈ partsFrom first tasks := by
    have inRange := (List.getElem?_eq_some_iff.mp found).1
    exact List.mem_map.mpr ⟨i, List.mem_range.mpr inRange, rfl⟩
  have known : (s.ended.lookup (.part (first + i))).isSome = true := by
    rcases serves.waiting noError _ isPart with waited | known
    · rw [serves.woken woken] at waited
      cases waited
    · exact known
  obtain ⟨outcome, ended⟩ := Option.isSome_iff_exists.mp known
  rw [ended, Option.getD_some]
  apply serves.exists_supply _ ended
  rw [startOf_part, found]

/-- What is learned from parts that were waited for are outcomes of their tasks. -/
theorem performAll_outcomes (between : Between s) {tasks : List (Course α)} {impatient : Bool}
    {replies : List (Except Raised α)} {s' : Simulation α}
    (performed : s.performAll tasks impatient = (.ok replies, s')) (woken : s'.awake = true) :
    ∃ supplies : Nat → Supply,
      Parts.outcomes supplies (tasks.map fun task => ⟨task, {}⟩) = replies := by
  by_cases noTask : tasks = []
  · subst noTask
    cases performed
    exact ⟨fun _ => default, rfl⟩
  · have serves := serves_awaitAll between noTask impatient
    rw [performAll_eq] at performed
    split at performed
    · cases performed
    · rename_i noError
      obtain ⟨learned, rfl⟩ := Prod.mk.inj performed
      obtain rfl := Except.ok.inj learned
      have supplied (i : Nat) : ∃ supply : Supply, ∀ task, tasks[i]? = some task →
          (task.run supply {}).result =
            ((s.awaitAll tasks impatient).ended.lookup (.part (s.parts + i))).getD
              (.error stalled) := by
        cases found : tasks[i]? with
        | none => exact ⟨default, nofun⟩
        | some task =>
            obtain ⟨supply, ends⟩ := serves.exists_supply_of_part noError woken found
            exact ⟨supply, fun _ same => Option.some.inj same ▸ ends⟩
      obtain ⟨supplies, ends⟩ := Classical.axiomOfChoice supplied
      refine ⟨supplies, List.ext_getElem? fun i => ?_⟩
      cases found : tasks[i]? with
      | none =>
          have outside := List.getElem?_eq_none_iff.mp found
          simp [Parts.outcomes, partsFrom, outside]
      | some task =>
          have inRange := (List.getElem?_eq_some_iff.mp found).1
          simp [Parts.outcomes, Part.outcome, partsFrom, List.getElem?_mapIdx, found,
            List.getElem?_range inRange, ends i task found]

/-- A caller that runs a task itself gets an outcome of it. -/
theorem perform_outcome (between : Between s) {task : Course α} {a : α} {s' : Simulation α}
    (performed : s.perform task = (.ok a, s')) :
    ∃ supply, (task.run supply {}).result = .ok a := by
  let start : ProcessId → Option (Course α) := fun p => if p = .caller then some task else none
  let s₁ := runUntil (fun s => (s.ended.lookup .caller).isSome) patience (s.proceed .caller task)
  have unborn : ∀ p task, start p = some task → s.Unborn p := by
    intro p task begun
    by_cases caller : p = .caller
    · rw [caller]
      trivial
    · simp [start, caller] at begun
  have waits : Serves start [] s :=
    between.serves unborn s.parts (fun p member => absurd member List.not_mem_nil)
      fun _ => between.waits
  have own : Follows start .caller task := fun t begun => Option.some.inj begun ▸ .refl
  have serves : Serves start [] s₁ := (waits.proceed own).runUntil _ patience
  have learned : (s₁.ended.lookup .caller).getD (.error stalled) = .ok a :=
    congrArg Prod.fst performed
  cases ended : s₁.ended.lookup .caller with
  | none =>
      rw [ended] at learned
      cases learned
  | some outcome =>
      rw [ended, Option.getD_some] at learned
      rw [← learned]
      exact serves.exists_supply rfl ended

/-! ## Plans -/

theorem Between.reportAll (between : Between s) (entries : List LogEntry) :
    Between (s.reportAll entries) := by
  obtain ⟨transcript, same⟩ := s.exists_reportAll_eq entries
  rw [same]
  exact ⟨between.proceed, between.exchange, between.ended, between.joined, between.idle,
    between.waits⟩

theorem reportAll_awake (s : Simulation α) (entries : List LogEntry) :
    (s.reportAll entries).awake = s.awake := by
  obtain ⟨transcript, same⟩ := s.exists_reportAll_eq entries
  rw [same]

/-- A search of a plan gives the settled result of its request. -/
theorem outcome_searchCourse (b : Backend) (supply : Supply) (r : Request) :
    Part.outcome supply ⟨searchCourse b (.ok r), {}⟩ =
      .ok (.result (r.settled (b.outcome supply r))) := by
  have mapped : Part.outcome supply ⟨searchCourse b (.ok r), {}⟩ =
      (Part.outcome supply ⟨b.run (.ok r), {}⟩).map Reply.result := by
    apply Task.result_bind
    intro outcome used
    rfl
  rw [mapped, b.outcome_run]
  rfl

theorem outcome_checkCourse (b : Backend) (supply : Supply) (index : String) :
    Part.outcome supply ⟨checkCourse b index, {}⟩ =
      ((b.isReachable index).run supply {}).result.map Reply.check := by
  apply Task.result_bind
  intro outcome used
  rfl

theorem results_map (rs : List SearchResult) :
    results (rs.map fun r => .ok (.result r)) = rs := by
  induction rs with
  | nil => rfl
  | cons r rs ih => exact congrArg (r :: ·) ih

theorem checks_map (outcomes : List (Except Raised Bool)) :
    checks (outcomes.map (·.map Reply.check)) = outcomes := by
  induction outcomes with
  | nil => rfl
  | cons outcome outcomes ih => cases outcome <;> exact congrArg (_ :: ·) ih

section

variable {s s' : Simulation Reply} {a : β}

theorem yields_of_carryOut_alone (between : Between s) (b : Backend) {r : Request}
    {finish : SearchResult → β}
    (carried : s.carryOut b (.alone (.ok r) finish) = (.ok a, s')) :
    ∃ supplies : Nat → Supply, (Plan.alone (.ok r) finish).Yields b supplies a := by
  simp only [carryOut] at carried
  split at carried
  · rename_i result s₁ performed
    obtain ⟨supply, ends⟩ := perform_outcome between performed
    obtain rfl := Except.ok.inj (Prod.mk.inj carried).1
    have same := (outcome_searchCourse b supply r).symm.trans ends
    cases same
    exact ⟨fun _ => supply, Plan.yields_alone r finish⟩
  · cases carried
  · cases carried

theorem yields_of_carryOut_together (between : Between s) (b : Backend) {before : List LogEntry}
    {requests : List Request} {finish : List SearchResult → List LogEntry × β}
    (carried : s.carryOut b (.together before (requests.map .ok) finish) = (.ok a, s'))
    (woken : s'.awake = true) :
    ∃ supplies : Nat → Supply,
      (Plan.together before (requests.map .ok) finish).Yields b supplies a := by
  simp only [carryOut] at carried
  split at carried
  · cases carried
  · rename_i replies s₁ performed
    obtain ⟨learned, rfl⟩ := Prod.mk.inj carried
    obtain rfl := Except.ok.inj learned
    rw [reportAll_awake] at woken
    obtain ⟨supplies, rfl⟩ := performAll_outcomes (between.reportAll before) performed woken
    have answered : Parts.outcomes supplies
        (((requests.map .ok).map (searchCourse b)).map fun task => ⟨task, {}⟩) =
          (b.results supplies requests).map fun r => .ok (.result r) := by
      apply List.ext_getElem?
      intro i
      simp [Parts.outcomes, Backend.results, List.getElem?_mapIdx, Function.comp_def,
        outcome_searchCourse]
    rw [answered, results_map]
    exact ⟨supplies, Plan.yields_together before requests finish⟩

theorem yields_of_carryOut_checks (between : Between s) (b : Backend) {indices : List String}
    {finish : List (Except Raised Bool) → List LogEntry × β}
    (carried : s.carryOut b (.checks indices finish) = (.ok a, s')) (woken : s'.awake = true) :
    ∃ supplies : Nat → Supply, (Plan.checks indices finish).Yields b supplies a := by
  simp only [carryOut] at carried
  split at carried
  · cases carried
  · rename_i replies s₁ performed
    obtain ⟨learned, rfl⟩ := Prod.mk.inj carried
    obtain rfl := Except.ok.inj learned
    rw [reportAll_awake] at woken
    obtain ⟨supplies, rfl⟩ := performAll_outcomes between performed woken
    have answered : Parts.outcomes supplies
        ((indices.map (checkCourse b)).map fun task => ⟨task, {}⟩) =
          (indices.mapIdx fun i index =>
            ((b.isReachable index).run (supplies i) {}).result).map (·.map Reply.check) := by
      apply List.ext_getElem?
      intro i
      simp [Parts.outcomes, List.getElem?_mapIdx, Function.comp_def, outcome_checkCourse]
    rw [answered, checks_map]
    exact ⟨supplies, Plan.yields_checks indices finish⟩

/-- What a simulation answers to a plan is what the plan gives on some supplies. -/
theorem yields_of_carryOut (between : Between s) (b : Backend) {plan : Plan β}
    {requests : List Request} (built : plan.requests = requests.map .ok)
    (carried : s.carryOut b plan = (.ok a, s')) (woken : s'.awake = true) :
    ∃ supplies : Nat → Supply, plan.Yields b supplies a := by
  cases plan with
  | answer a' =>
      obtain rfl := Except.ok.inj (Prod.mk.inj carried).1
      exact ⟨fun _ => default, Plan.yields_answer a'⟩
  | alone request finish =>
      obtain ⟨r, rfl⟩ : ∃ r, request = .ok r := by
        cases requests with
        | nil => cases built
        | cons r requests => exact ⟨r, (List.cons.inj built).1⟩
      exact yields_of_carryOut_alone between b carried
  | together before requests' finish =>
      obtain rfl : requests' = requests.map .ok := built
      exact yields_of_carryOut_together between b carried woken
  | checks indices finish => exact yields_of_carryOut_checks between b carried woken

end

end Bazaar.Simulation
