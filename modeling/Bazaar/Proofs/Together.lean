import Bazaar.Proofs.Similar

/-!
# Calls at once

Calls that run at once draw from one stream and ask one clock, but each of them is answered on its
own.  They take turns in any order, and one turn is a single step of a call, so that others may do
anything between a request and its answer, or during a pause.  A steady call does the same then as
it does alone, but for the lengths of its pauses.
-/

namespace Bazaar

/-- What calls at once are answered: draws and times in the order in which any of them asks,
deliveries by the number of the call and of its request. -/
structure CommonSupply where
  draws : Nat → Float
  times : Nat → Float
  deliveries : Nat → Nat → Delivery

/-- The supply of a call that has everything to itself. -/
def CommonSupply.supply (s : CommonSupply) (i : Nat) : Supply :=
  ⟨s.draws, s.times, s.deliveries i⟩

/-- Where a call stands. -/
inductive Stage (α : Type) where
  | ready (rest : Task α)
  | pausing (rest : Task α)
  | waiting (next : Delivery → Task α)

/-- A call under way, the number of its requests that have been answered, and its acts so far. -/
structure Call (α : Type) where
  stage : Stage α
  answered : Nat := 0
  acts : List Act := []

/-- Calls under way at once, and how often any of them has drawn and asked for the time. -/
structure Crowd (α : Type) where
  calls : List (Call α)
  draws : Nat := 0
  times : Nat := 0

/-! ## Turns -/

/-- One turn of a call, on the next draw and the next time. -/
def Call.turn (supply : Supply) (draws times : Nat) (c : Call α) : Call α × Nat × Nat :=
  match c.stage with
  | .ready (.done _) => (c, draws, times)
  | .ready (.log _ next) => ({ c with stage := .ready next }, draws, times)
  | .ready (.draw next) =>
    ({ c with stage := .ready (next (supply.draws draws)) }, draws + 1, times)
  | .ready (.clock next) =>
    ({ c with stage := .ready (next (supply.times times)) }, draws, times + 1)
  | .ready (.sleep seconds next) =>
    ({ c with stage := .pausing next, acts := c.acts ++ [.pause seconds] }, draws, times)
  | .ready (.exchange r next) =>
    ({ c with stage := .waiting next, acts := c.acts ++ [.request r] }, draws, times)
  | .pausing next => ({ c with stage := .ready next }, draws, times)
  | .waiting next =>
    ({ c with stage := .ready (next (supply.deliveries c.answered)), answered := c.answered + 1 },
      draws, times)

namespace Crowd

/-- Calls that have not done anything yet. -/
def start (tasks : List (Task α)) : Crowd α where
  calls := tasks.map fun task => { stage := .ready task }

/-- The call with a number takes a turn, if there is one. -/
def turn (s : CommonSupply) (w : Crowd α) (i : Nat) : Crowd α :=
  match w.calls[i]? with
  | none => w
  | some c =>
    let (c, draws, times) := c.turn (s.supply i) w.draws w.times
    ⟨w.calls.set i c, draws, times⟩

/-- The calls take turns in an order. -/
def run (s : CommonSupply) (w : Crowd α) (order : List Nat) : Crowd α :=
  order.foldl (turn s) w

end Crowd

/-! ## What is left -/

namespace Stage

/-- Whether what is left of a call is steady. -/
def Steady : Stage α → Prop
  | .ready rest | .pausing rest => rest.Steady
  | .waiting next => ∀ d, (next d).Steady

/-- What is left of a call, done alone. -/
def rest (supply : Supply) (answered : Nat) : Stage α → Trace α
  | .ready rest | .pausing rest => rest.run supply ⟨0, 0, answered⟩
  | .waiting next => (next (supply.deliveries answered)).run supply ⟨0, 0, answered + 1⟩

/-- The turns that are left of a call: it takes one to begin a pause and one to end it, and one to
send a request and one to be answered. -/
def turnsLeft (supply : Supply) (answered : Nat) : Stage α → Nat
  | .ready rest => rest.turns 2 supply ⟨0, 0, answered⟩
  | .pausing rest => rest.turns 2 supply ⟨0, 0, answered⟩ + 1
  | .waiting next =>
    (next (supply.deliveries answered)).turns 2 supply ⟨0, 0, answered + 1⟩ + 1

end Stage

namespace Call

/-- The result of a call that has ended. -/
def result? (c : Call α) : Option α :=
  match c.stage with
  | .ready (.done a) => some a
  | _ => none

/-- An outline with some acts before it. -/
def behind (acts : List Act) (outline : List (Option WireRequest) × α) :
    List (Option WireRequest) × α :=
  (acts.map Act.request? ++ outline.1, outline.2)

theorem behind_append_singleton (acts : List Act) (act : Act)
    (outline : List (Option WireRequest) × α) :
    behind (acts ++ [act]) outline = behind acts (act.request? :: outline.1, outline.2) := by
  simp [behind]

/-- The outline of a call: that of its acts so far and of what is left, done alone. -/
def outline (supply : Supply) (c : Call α) : List (Option WireRequest) × α :=
  behind c.acts (c.stage.rest supply c.answered).outline

/-- The turns that are left of a call. -/
def turnsLeft (supply : Supply) (c : Call α) : Nat :=
  c.stage.turnsLeft supply c.answered

/-- A call that is steady comes to an outline, and is done after some turns. -/
structure Keeps (supply : Supply) (outline : List (Option WireRequest) × α) (turns : Nat)
    (c : Call α) : Prop where
  steady : c.stage.Steady
  outline : c.outline supply = outline
  turns : c.turnsLeft supply = turns

variable {supply : Supply} {c : Call α}

/-- Whatever a call draws and is told, a turn changes nothing about what it comes to. -/
theorem Keeps.turn {outline : List (Option WireRequest) × α} {turns : Nat}
    (keeps : c.Keeps supply outline turns) (draws times : Nat) :
    (c.turn supply draws times).1.Keeps supply outline (turns - 1) := by
  obtain ⟨steady, rfl, rfl⟩ := keeps
  obtain ⟨stage, answered, acts⟩ := c
  cases stage with
  | ready rest =>
      cases rest with
      | done a => exact ⟨steady, rfl, rfl⟩
      | log entry next =>
          cases steady with
          | log _ _ steady => exact ⟨steady, rfl, rfl⟩
      | draw next =>
          -- The draw differs from the one that the call has alone, but nothing depends on it.
          cases steady with
          | draw steady =>
              have same := steady (supply.draws draws) (supply.draws 0)
              exact ⟨steady _ _, congrArg (behind acts) (same.outline_eq rfl rfl),
                same.turns_eq rfl rfl⟩
      | clock next =>
          cases steady with
          | clock steady =>
              have same := steady (supply.times times) (supply.times 0)
              exact ⟨steady _ _, congrArg (behind acts) (same.outline_eq rfl rfl),
                same.turns_eq rfl rfl⟩
      | sleep seconds next =>
          cases steady with
          | sleep _ _ steady => exact ⟨steady, behind_append_singleton acts (.pause seconds) _, rfl⟩
      | exchange r next =>
          cases steady with
          | exchange _ steady => exact ⟨steady, behind_append_singleton acts (.request r) _, rfl⟩
  | pausing rest => exact ⟨steady, rfl, rfl⟩
  | waiting next => exact ⟨steady _, rfl, rfl⟩

section Keeps

variable {outline : List (Option WireRequest) × α} {turns : Nat}

theorem Keeps.acts_prefix (keeps : c.Keeps supply outline turns) :
    c.acts.map Act.request? <+: outline.1 := by
  rw [← keeps.outline]
  exact List.prefix_append _ _

theorem Keeps.outline_of_result? (keeps : c.Keeps supply outline turns) {a : α}
    (ended : c.result? = some a) : outline = (c.acts.map Act.request?, a) := by
  obtain ⟨-, rfl, -⟩ := keeps
  obtain ⟨stage, answered, acts⟩ := c
  cases stage with
  | ready rest =>
      cases rest with
      | done b =>
          cases ended
          simp [Call.outline, behind, Stage.rest, Trace.outline]
      | _ => cases ended
  | _ => cases ended

theorem Keeps.isSome_result? (keeps : c.Keeps supply outline 0) : c.result?.isSome := by
  obtain ⟨-, -, spent⟩ := keeps
  obtain ⟨stage, answered, acts⟩ := c
  cases stage with
  | ready rest =>
      cases rest with
      | done a => rfl
      | _ => simp [turnsLeft, Stage.turnsLeft, Task.turns] at spent
  | _ => simp [turnsLeft, Stage.turnsLeft] at spent

end Keeps

end Call

/-! ## Any order -/

namespace Crowd

variable (s : CommonSupply) {i : Nat} {c : Call α} {outline : List (Option WireRequest) × α}
  {turns : Nat}

/-- A turn of any call leaves each call with what it comes to. -/
theorem keeps_turn {w : Crowd α} (found : w.calls[i]? = some c)
    (keeps : c.Keeps (s.supply i) outline turns) (j : Nat) :
    ∃ c', (w.turn s j).calls[i]? = some c' ∧
      c'.Keeps (s.supply i) outline (turns - if j == i then 1 else 0) := by
  by_cases own : j = i
  · subst own
    have within := (List.getElem?_eq_some_iff.mp found).1
    rw [if_pos (beq_self_eq_true j)]
    refine ⟨_, ?_, keeps.turn w.draws w.times⟩
    simp only [turn, found]
    exact List.getElem?_set_self within
  · rw [if_neg (by simpa using own)]
    refine ⟨c, ?_, keeps⟩
    unfold turn
    cases other : w.calls[j]? with
    | none => exact found
    | some d => exact (List.getElem?_set_ne own).trans found

/-- Whatever the order of the turns, each call comes to what it comes to alone. -/
theorem keeps_run {w : Crowd α} (found : w.calls[i]? = some c)
    (keeps : c.Keeps (s.supply i) outline turns) (order : List Nat) :
    ∃ c', (w.run s order).calls[i]? = some c' ∧
      c'.Keeps (s.supply i) outline (turns - order.count i) := by
  induction order generalizing w c turns with
  | nil => exact ⟨c, found, keeps⟩
  | cons j order ih =>
      obtain ⟨c', found', keeps'⟩ := keeps_turn s found keeps j
      obtain ⟨last, foundLast, keepsLast⟩ := ih found' keeps'
      refine ⟨last, foundLast, ?_⟩
      rwa [Nat.sub_sub, Nat.add_comm, ← List.count_cons] at keepsLast

/-- A steady task among others comes to what it comes to alone. -/
theorem exists_call {tasks : List (Task α)} {task : Task α} (listed : tasks[i]? = some task)
    (steady : task.Steady) (order : List Nat) :
    ∃ c, ((start tasks).run s order).calls[i]? = some c ∧
      c.Keeps (s.supply i) (task.run (s.supply i) {}).outline
        (task.turns 2 (s.supply i) {} - order.count i) := by
  have found : (start tasks).calls[i]? = some { stage := .ready task } := by
    simp [start, listed]
  exact keeps_run s found ⟨steady, rfl, rfl⟩ order

end Crowd

end Bazaar
