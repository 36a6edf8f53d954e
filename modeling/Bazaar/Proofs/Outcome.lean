import Mathlib.Logic.Basic

/-!
# Outcomes of readers and checks

What follows when something that may fail gave a value, or failed.
-/

namespace Bazaar

/-- A value is reached over another one. -/
theorem bind_eq_ok_iff {x : Except ε α} {f : α → Except ε β} {b : β} :
    x >>= f = .ok b ↔ ∃ a, x = .ok a ∧ f a = .ok b := by
  cases x with
  | error e => exact iff_of_false nofun nofun
  | ok a => simp [bind, Except.bind]

theorem exists_of_bind_eq_ok {x : Except ε α} {f : α → Except ε β} {b : β}
    (reached : x >>= f = .ok b) : ∃ a, x = .ok a ∧ f a = .ok b :=
  bind_eq_ok_iff.mp reached

/-- What becomes of a value does not change how it failed. -/
theorem bind_pure_eq_error_iff {x : Except ε α} {f : α → β} {e : ε} :
    (x >>= fun a => pure (f a)) = .error e ↔ x = .error e := by
  cases x with
  | error e' => simp [bind, Except.bind]
  | ok a => exact iff_of_false nofun nofun

theorem exists_of_map_eq_ok {x : Except ε α} {f : α → β} {b : β} (reached : x.map f = .ok b) :
    ∃ a, x = .ok a ∧ f a = b := by
  cases x with
  | error e => cases reached
  | ok a => exact ⟨a, rfl, Except.ok.inj reached⟩

theorem eq_ok_of_mapError_eq_ok {x : Except ε α} {f : ε → ε'} {a : α}
    (reached : x.mapError f = .ok a) : x = .ok a := by
  cases x with
  | error e => cases reached
  | ok b => cases reached; rfl

theorem exists_of_mapError_eq_error {x : Except ε α} {f : ε → ε'} {e' : ε'}
    (failed : x.mapError f = .error e') : ∃ e, x = .error e ∧ f e = e' := by
  cases x with
  | error e => exact ⟨e, rfl, Except.error.inj failed⟩
  | ok a => cases failed

/-- What is checked of an outcome is checked of a value. -/
theorem exists_of_any {x : Except ε α} {p : α → Bool} (checked : x.toOption.any p = true) :
    ∃ a, x = .ok a ∧ p a = true := by
  cases x with
  | error e => cases checked
  | ok a => exact ⟨a, rfl, checked⟩

/-- Whether reading gives anything. -/
def Reads (x : Except ε α) : Prop :=
  ∃ a, x = .ok a

section Reads

@[simp]
theorem reads_ok (a : α) : Reads (.ok a : Except ε α) :=
  ⟨a, rfl⟩

@[simp]
theorem reads_pure (a : α) : Reads (pure a : Except ε α) :=
  ⟨a, rfl⟩

@[simp]
theorem not_reads_error (e : ε) : ¬Reads (.error e : Except ε α) := by
  rintro ⟨a, absurd⟩
  cases absurd

theorem exists_error_of_not_reads {x : Except ε α} (failed : ¬Reads x) : ∃ e, x = .error e := by
  cases x with
  | error e => exact ⟨e, rfl⟩
  | ok a => exact absurd (reads_ok a) failed

theorem reads_ok_bind_iff {a : α} {f : α → Except ε β} :
    Reads ((.ok a : Except ε α) >>= f) ↔ Reads (f a) :=
  Iff.rfl

/-- A reading behind another one that gives something whatever that one gave. -/
theorem reads_bind_iff {x : Except ε α} {f : α → Except ε β} {p : Prop}
    (behind : ∀ a, Reads (f a) ↔ p) : Reads (x >>= f) ↔ Reads x ∧ p := by
  cases x with
  | error e =>
      exact iff_of_false (not_reads_error e) fun reads => not_reads_error e reads.1
  | ok a => exact (behind a).trans ⟨fun holds => ⟨reads_ok a, holds⟩, And.right⟩

/-- A reading behind another one that always gives something. -/
theorem reads_bind_of_reads {x : Except ε α} {f : α → Except ε β}
    (behind : ∀ a, Reads (f a)) : Reads (x >>= f) ↔ Reads x := by
  rw [reads_bind_iff fun a => iff_true_intro (behind a), and_true]

@[simp]
theorem reads_map_iff {x : Except ε α} {f : α → β} : Reads (x.map f) ↔ Reads x := by
  cases x with
  | error e => exact iff_of_false (not_reads_error e) (not_reads_error e)
  | ok a => exact iff_of_true (reads_ok (f a)) (reads_ok a)

@[simp]
theorem reads_mapError_iff {x : Except ε α} {f : ε → ε'} : Reads (x.mapError f) ↔ Reads x := by
  cases x with
  | error e => exact iff_of_false (not_reads_error _) (not_reads_error e)
  | ok a => exact iff_of_true (reads_ok a) (reads_ok a)

end Reads

end Bazaar
