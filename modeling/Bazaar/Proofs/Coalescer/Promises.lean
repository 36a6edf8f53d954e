import Bazaar.Coalescer

/-!
# The promises of a coalescer

Where the result of one submission stands after each operation of a coalescer.
-/

namespace Bazaar

namespace Coalescer

variable {wording : ε → String} {c : Coalescer (Except ε α)} {g : Nat}

/-- Whether the outcome of a run would be delivered now. -/
def delivers (c : Coalescer ρ) (submission : Nat) : Bool :=
  submission == c.generation && c.isAwaited submission

/-- The outcome of a run goes to its own submission, and only if it is delivered. -/
theorem settle_fst (o : Except ε α) :
    (c.settle wording g o).1 = if c.delivers g then c.setPromise g (.resolved o) else c := by
  cases o with
  | ok a =>
      by_cases latest : g = c.generation <;> simp [settle, finish, delivers, latest]
  | error e =>
      by_cases latest : g = c.generation <;> by_cases awaited : c.isAwaited g <;>
        simp_all [settle, fail, delivers]

theorem settle_generation (o : Except ε α) :
    (c.settle wording g o).1.generation = c.generation := by
  rw [settle_fst]
  split <;> rfl

theorem settle_armed (o : Except ε α) : (c.settle wording g o).1.armed = c.armed := by
  rw [settle_fst]
  split <;> rfl

theorem giveUp_generation (c : Coalescer ρ) (g : Nat) :
    (c.giveUp g).generation = c.generation := by
  unfold giveUp
  split <;> rfl

theorem giveUp_armed (c : Coalescer ρ) (g : Nat) : (c.giveUp g).armed = c.armed := by
  unfold giveUp
  split <;> rfl

theorem isAwaited_iff (c : Coalescer ρ) : c.isAwaited g = true ↔ c.promise? g = some .pending := by
  unfold isAwaited
  split <;> simp_all

theorem delivers_iff (c : Coalescer ρ) :
    c.delivers g = true ↔ g = c.generation ∧ c.promise? g = some .pending := by
  rw [delivers, Bool.and_eq_true, beq_iff_eq, isAwaited_iff]

theorem lookup_map_snd {ρ : Type} (change : Nat → ρ → ρ) (g : Nat) (l : List (Nat × ρ)) :
    (l.map fun (k, v) => (k, change k v)).lookup g = (l.lookup g).map (change g) := by
  induction l with
  | nil => rfl
  | cons x rest ih =>
      obtain ⟨k, v⟩ := x
      by_cases same : g = k
      · simp [same]
      · have differs : (g == k) = false := by simp [same]
        simp only [List.map_cons, List.lookup_cons, differs, ih]

theorem promise?_setPromise (c : Coalescer ρ) (g k : Nat) (p : Promise ρ) :
    (c.setPromise g p).promise? k =
      if k = g then (c.promise? k).map fun _ => p else c.promise? k := by
  have asChange : (fun (x : Nat × Promise ρ) => if x.1 = g then (x.1, p) else (x.1, x.2)) =
      fun x => (x.1, if x.1 = g then p else x.2) := by
    funext x
    split <;> rfl
  simp only [promise?, setPromise, asChange,
    lookup_map_snd (fun n old => if n = g then p else old)]
  split <;> simp_all

theorem promise?_submit (c : Coalescer ρ) (k : Nat) :
    c.submit.promise? k =
      (c.promise? k).or (if k = c.generation + 1 then some .pending else none) := by
  simp only [promise?, submit, List.lookup_append]
  congr 1
  by_cases same : k = c.generation + 1
  · simp [same]
  · have differs : (k == c.generation + 1) = false := beq_eq_false_iff_ne.mpr same
    rw [List.lookup_cons, differs, if_neg same]
    rfl

theorem promise?_giveUp (c : Coalescer ρ) (g k : Nat) :
    (c.giveUp g).promise? k =
      if k = g ∧ c.isAwaited g = true then some .abandoned else c.promise? k := by
  unfold giveUp
  by_cases awaited : c.isAwaited g = true
  · have pending := (isAwaited_iff c).mp awaited
    rw [if_pos awaited, promise?_setPromise]
    by_cases same : k = g <;> simp [same, pending, awaited]
  · rw [if_neg awaited, if_neg fun both => awaited both.2]

theorem promise?_giveUp_of_ne (c : Coalescer ρ) {k : Nat} (differs : k ≠ g) :
    (c.giveUp g).promise? k = c.promise? k := by
  rw [promise?_giveUp, if_neg fun both => differs both.1]

/-- Nothing is awaited by a caller that has given up. -/
theorem promise?_giveUp_self (c : Coalescer ρ) (g : Nat) :
    (c.giveUp g).promise? g ≠ some .pending := by
  rw [promise?_giveUp, ne_eq]
  split
  · simp
  · rename_i notAwaited
    exact fun pending => notAwaited ⟨rfl, (isAwaited_iff c).mpr pending⟩

theorem promise?_giveUp_eq_none_iff (c : Coalescer ρ) (g k : Nat) :
    (c.giveUp g).promise? k = none ↔ c.promise? k = none := by
  rw [promise?_giveUp]
  split
  · rename_i both
    simp [both.1, (isAwaited_iff c).mp both.2]
  · rfl

theorem promise?_giveUp_eq_resolved_iff (c : Coalescer ρ) (g k : Nat) (r : ρ) :
    (c.giveUp g).promise? k = some (.resolved r) ↔ c.promise? k = some (.resolved r) := by
  rw [promise?_giveUp]
  split
  · rename_i both
    simp [both.1, (isAwaited_iff c).mp both.2]
  · rfl

theorem promise?_settle (o : Except ε α) (k : Nat) :
    (c.settle wording g o).1.promise? k =
      if k = g ∧ c.delivers g = true then some (.resolved o) else c.promise? k := by
  rw [settle_fst]
  by_cases delivered : c.delivers g = true
  · have pending := ((delivers_iff c).mp delivered).2
    rw [if_pos delivered, promise?_setPromise]
    by_cases same : k = g <;> simp [same, pending, delivered]
  · rw [if_neg delivered, if_neg fun both => delivered both.2]

end Coalescer

end Bazaar
