import Bazaar.Proofs.Task
import Mathlib.Data.List.Induction
import Mathlib.Logic.Function.Iterate

/-!
# Tasks at once

Tasks that run at once take turns, in any order.  Each has a supply of its own, and one turn answers
one question of it or lets one act of it happen.  Whoever waits for all of them learns the results
in the order of the tasks, or the first error.  What is learned never depends on the order of the
turns; only how soon it is learned does.
-/

namespace Bazaar

/-! ## One task under way -/

/-- What is left of a task, and how much of its supply has been used. -/
structure Part (α : Type) where
  rest : Task α
  used : Usage := {}

namespace Part

/-- One turn of a part; a part that has ended has nothing left to do. -/
def turn (supply : Supply) : Part α → Part α
  | ⟨.done a, used⟩ => ⟨.done a, used⟩
  | ⟨.log _ next, used⟩ => ⟨next, used⟩
  | ⟨.draw next, used⟩ => ⟨next (supply.draws used.draws), { used with draws := used.draws + 1 }⟩
  | ⟨.clock next, used⟩ => ⟨next (supply.times used.times), { used with times := used.times + 1 }⟩
  | ⟨.sleep _ next, used⟩ => ⟨next, used⟩
  | ⟨.exchange _ next, used⟩ =>
    ⟨next (supply.deliveries used.deliveries), { used with deliveries := used.deliveries + 1 }⟩

/-- The result of a part that has ended. -/
def result? : Part α → Option α
  | ⟨.done a, _⟩ => some a
  | _ => none

/-- What a part ends with. -/
def outcome (supply : Supply) (p : Part α) : α :=
  (p.rest.run supply p.used).result

/-- A turn changes nothing about what a part ends with. -/
@[simp]
theorem outcome_turn (supply : Supply) (p : Part α) :
    (p.turn supply).outcome supply = p.outcome supply := by
  obtain ⟨rest, used⟩ := p
  cases rest <;> rfl

theorem outcome_of_result? {p : Part α} {a : α} (ended : p.result? = some a) (supply : Supply) :
    p.outcome supply = a := by
  obtain ⟨rest, used⟩ := p
  cases rest with
  | done b => exact Option.some.inj ended
  | _ => cases ended

/-- The turns that a part needs until it has ended. -/
def turnsLeft (supply : Supply) (p : Part α) : Nat :=
  p.rest.turns 1 supply p.used

@[simp]
theorem turnsLeft_turn (supply : Supply) (p : Part α) :
    (p.turn supply).turnsLeft supply = p.turnsLeft supply - 1 := by
  obtain ⟨rest, used⟩ := p
  cases rest <;> rfl

theorem outcome_turns (supply : Supply) (n : Nat) (p : Part α) :
    ((turn supply)^[n] p).outcome supply = p.outcome supply := by
  induction n generalizing p with
  | zero => rfl
  | succ n ih => rw [Function.iterate_succ_apply, ih, outcome_turn]

theorem turnsLeft_turns (supply : Supply) (n : Nat) (p : Part α) :
    ((turn supply)^[n] p).turnsLeft supply = p.turnsLeft supply - n := by
  induction n generalizing p with
  | zero => rfl
  | succ n ih => rw [Function.iterate_succ_apply, ih, turnsLeft_turn, Nat.sub_sub, Nat.add_comm 1]

theorem isSome_result? {supply : Supply} {p : Part α} (spent : p.turnsLeft supply = 0) :
    p.result?.isSome := by
  obtain ⟨rest, used⟩ := p
  cases rest with
  | done a => rfl
  | _ => simp [turnsLeft, Task.turns] at spent

end Part

/-! ## Waiting for several -/

namespace Parts

/-- What the parts end with, each on its own supply. -/
def outcomes (supplies : Nat → Supply) (parts : List (Part α)) : List α :=
  parts.mapIdx fun i p => p.outcome (supplies i)

/-- One part takes a turn. -/
def turn (supplies : Nat → Supply) (parts : List (Part α)) (i : Nat) : List (Part α) :=
  parts.modify i (Part.turn (supplies i))

/-- What is learned from parts that are waited for: an error once one of them has ended with it,
all results once all have ended, and nothing before. -/
def learned? : List (Part (Except ε α)) → Option (Except ε (List α))
  | [] => some (.ok [])
  | p :: parts =>
    match p.result?, learned? parts with
    | some (.error e), _ => some (.error e)
    | _, some (.error e) => some (.error e)
    | some (.ok a), some (.ok as) => some (.ok (a :: as))
    | _, _ => none

/-- What is learned from parts that take turns in an order; the wait ends as soon as anything is
learned. -/
def gather (supplies : Nat → Supply) :
    List Nat → List (Part (Except ε α)) → Option (Except ε (List α))
  | [], parts => learned? parts
  | i :: order, parts => (learned? parts).or (gather supplies order (turn supplies parts i))

variable {supplies : Nat → Supply}

/-- No turn of any part changes what the parts end with. -/
@[simp]
theorem outcomes_turn (parts : List (Part α)) (i : Nat) :
    outcomes supplies (turn supplies parts i) = outcomes supplies parts := by
  refine List.ext_getElem? fun j => ?_
  by_cases own : i = j
  · subst own
    simp [outcomes, turn, List.getElem?_mapIdx, Function.comp_def]
  · simp [outcomes, turn, List.getElem?_mapIdx, own]

theorem outcomes_cons (p : Part α) (parts : List (Part α)) :
    outcomes supplies (p :: parts) =
      p.outcome (supplies 0) :: outcomes (fun i => supplies (i + 1)) parts :=
  List.mapIdx_cons

section

variable {parts : List (Part (Except ε α))}

/-- Results that are learned are what the parts end with. -/
theorem outcomes_of_learned? {as : List α} (learned : learned? parts = some (.ok as)) :
    outcomes supplies parts = as.map .ok := by
  fun_induction learned? parts generalizing as supplies with
  | case1 => cases learned; rfl
  | case2 => cases learned
  | case3 => cases learned
  | case4 p parts a as' rest ended ih =>
      cases learned
      rw [outcomes_cons, Part.outcome_of_result? ended, ih rest, List.map_cons]
  | case5 => cases learned

/-- An error that is learned is what one of the parts ends with. -/
theorem mem_outcomes_of_learned? {e : ε} (learned : learned? parts = some (.error e)) :
    .error e ∈ outcomes supplies parts := by
  fun_induction learned? parts generalizing supplies with
  | case1 => cases learned
  | case2 p parts e' ended =>
      cases learned
      rw [outcomes_cons, Part.outcome_of_result? ended]
      exact List.mem_cons_self
  | case3 p parts e' rest other ih =>
      cases learned
      rw [outcomes_cons]
      exact List.mem_cons_of_mem _ (ih rest)
  | case4 => cases learned
  | case5 => cases learned

theorem isSome_learned? (ended : ∀ p ∈ parts, p.result?.isSome) : (learned? parts).isSome := by
  induction parts with
  | nil => rfl
  | cons p parts ih =>
      obtain ⟨own, others⟩ := List.forall_mem_cons.mp ended
      obtain ⟨r, result⟩ := Option.isSome_iff_exists.mp own
      obtain ⟨l, rest⟩ := Option.isSome_iff_exists.mp (ih others)
      cases r <;> cases l <;> simp [learned?, result, rest]

/-! ## Any order -/

/-- Whatever is learned, and in whatever order the parts take turns, results are what the parts end
with. -/
theorem outcomes_of_gather {order : List Nat} {as : List α}
    (learned : gather supplies order parts = some (.ok as)) :
    outcomes supplies parts = as.map .ok := by
  induction order generalizing parts with
  | nil => exact outcomes_of_learned? learned
  | cons i order ih =>
      rcases Option.or_eq_some_iff.mp learned with now | ⟨-, later⟩
      · exact outcomes_of_learned? now
      · exact (outcomes_turn parts i).symm.trans (ih later)

theorem mem_outcomes_of_gather {order : List Nat} {e : ε}
    (learned : gather supplies order parts = some (.error e)) :
    .error e ∈ outcomes supplies parts := by
  induction order generalizing parts with
  | nil => exact mem_outcomes_of_learned? learned
  | cons i order ih =>
      rcases Option.or_eq_some_iff.mp learned with now | ⟨-, later⟩
      · exact mem_outcomes_of_learned? now
      · exact outcomes_turn parts i ▸ ih later

/-- The wait ends at the latest when every part has had the turns that it needs. -/
theorem isSome_gather {order : List Nat}
    (served : ∀ i p, parts[i]? = some p → p.turnsLeft (supplies i) ≤ order.count i) :
    (gather supplies order parts).isSome := by
  induction order generalizing parts with
  | nil =>
      refine isSome_learned? fun p member => ?_
      obtain ⟨i, found⟩ := List.getElem?_of_mem member
      exact Part.isSome_result? (Nat.le_zero.mp (served i p found))
  | cons i order ih =>
      suffices (gather supplies order (turn supplies parts i)).isSome by
        unfold gather
        cases learned? parts <;> simp [this]
      refine ih fun j p found => ?_
      by_cases own : i = j
      · subst own
        obtain ⟨q, before, rfl⟩ := Option.map_eq_some_iff.mp
          ((List.getElem?_modify_eq _ _ _).symm.trans found)
        have needed := served i q before
        rw [List.count_cons_self] at needed
        rw [Part.turnsLeft_turn]
        omega
      · have needed := served j p ((List.getElem?_modify_ne _ _ own).symm.trans found)
        rwa [List.count_cons_of_ne own] at needed

/-- There are orders in which every part has the turns that it needs. -/
theorem exists_order (supplies : Nat → Supply) (parts : List (Part α)) :
    ∃ enough : List Nat, ∀ i p, parts[i]? = some p → p.turnsLeft (supplies i) ≤ enough.count i := by
  induction parts using List.reverseRecOn with
  | nil => exact ⟨[], fun i p found => by simp at found⟩
  | append_singleton parts last ih =>
      obtain ⟨enough, served⟩ := ih
      refine ⟨enough ++ List.replicate (last.turnsLeft (supplies parts.length)) parts.length,
        fun i p found => ?_⟩
      rw [List.count_append]
      rcases Nat.lt_or_ge i parts.length with earlier | later
      · rw [List.getElem?_append_left earlier] at found
        exact Nat.le_add_right_of_le (served i p found)
      · rw [List.getElem?_append_right later] at found
        obtain ⟨zero, rfl⟩ : i - parts.length = 0 ∧ last = p := by
          simpa [List.getElem?_singleton] using found
        obtain rfl : i = parts.length := by omega
        rw [List.count_replicate_self]
        exact Nat.le_add_left _ _

/-- Of parts that all end well nothing but their results is learned. -/
theorem eq_ok_of_gather {order : List Nat} {as : List α} {learned : Except ε (List α)}
    (well : outcomes supplies parts = as.map .ok)
    (waited : gather supplies order parts = some learned) : learned = .ok as := by
  cases learned with
  | error e =>
      have raised := mem_outcomes_of_gather waited
      rw [well] at raised
      obtain ⟨a, -, impossible⟩ := List.mem_map.mp raised
      cases impossible
  | ok bs =>
      have same := (outcomes_of_gather waited).symm.trans well
      have injective : Function.Injective (Except.ok : α → Except ε α) :=
        fun _ _ equal => Except.ok.inj equal
      rw [List.map_inj_right injective] at same
      rw [same]

/-- The results of parts that all end well are learned in every order that is long enough. -/
theorem exists_gather {as : List α} (well : outcomes supplies parts = as.map .ok) :
    ∃ enough : List Nat, ∀ order : List Nat, (∀ i, enough.count i ≤ order.count i) →
      gather supplies order parts = some (.ok as) := by
  obtain ⟨enough, served⟩ := exists_order supplies parts
  refine ⟨enough, fun order longer => ?_⟩
  obtain ⟨learned, waited⟩ := Option.isSome_iff_exists.mp
    (isSome_gather fun i p found => Nat.le_trans (served i p found) (longer i))
  rw [waited, eq_ok_of_gather well waited]

end

end Parts

end Bazaar
