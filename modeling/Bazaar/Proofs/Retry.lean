import Bazaar.Retry

/-!
# Accepted retry settings

What is known of settings that are not refused, and which entry of the list of time limits an
attempt takes.
-/

namespace Bazaar.RetryPolicy

variable {p : RetryPolicy}

private theorem ite_some_eq_none_iff {α : Type} {c : Prop} [Decidable c] {a : α} {rest : Option α} :
    (if c then some a else rest) = none ↔ ¬c ∧ rest = none := by
  by_cases holds : c <;> simp [holds]

/-- Settings are accepted exactly when no check finds fault with them. -/
theorem fault?_eq_none_iff :
    p.fault? = none ↔
      0 < p.maxAttempts ∧ p.timeouts ≠ [] ∧ (∀ t ∈ p.timeouts, t.atMost zero = false) ∧
        (p.delayFactor.below zero = false ∧ p.maxDelay.below zero = false) ∧
        zero.atMost p.randomizationFactor = true ∧
        p.randomizationFactor.atMost (.int 1) = true := by
  simp only [fault?, ite_some_eq_none_iff, Int.not_le, List.isEmpty_iff, List.any_eq_true,
    not_exists, not_and, Bool.not_eq_true, Bool.or_eq_false_iff, Bool.not_eq_false',
    Bool.and_eq_true, and_true, ne_eq]

/-- The usual settings are accepted. -/
theorem fault?_default : ({} : RetryPolicy).fault? = none := by
  decide +kernel

theorem maxAttempts_pos (accepted : p.fault? = none) : 0 < p.maxAttempts :=
  (fault?_eq_none_iff.mp accepted).1

theorem exists_maxAttempts_eq (accepted : p.fault? = none) :
    ∃ left : Nat, p.maxAttempts = ((left + 1 : Nat) : Int) := by
  have positive := maxAttempts_pos accepted
  exact ⟨p.maxAttempts.toNat - 1, by omega⟩

theorem timeouts_ne_nil (accepted : p.fault? = none) : p.timeouts ≠ [] :=
  (fault?_eq_none_iff.mp accepted).2.1

/-- Each attempt takes the entry with its number, and those behind the end take the last one. -/
theorem getElem?_timeouts (accepted : p.fault? = none) (attempt : Nat) :
    p.timeouts[min (attempt - 1) (p.timeouts.length - 1)]? = some (p.timeoutFor attempt) := by
  have someTimeout := List.length_pos_iff.mpr (timeouts_ne_nil accepted)
  have place : (max (attempt : Int) 1 - 1).toNat = attempt - 1 := by omega
  have within : min (attempt - 1) (p.timeouts.length - 1) < p.timeouts.length := by omega
  rw [timeoutFor, place]
  simp [List.getD_eq_getElem?_getD, List.getElem?_eq_getElem within]

/-! ## Draws -/

theorem mul_float (a : Number) (x : Float) :
    a.mul (.float x) = a.toFloat.bind fun v => .ok (.float (v * x)) := by
  cases a <;> rfl

theorem add_float (a : Number) (x : Float) :
    a.add (.float x) = a.toFloat.bind fun v => .ok (.float (v + x)) := by
  cases a <;> rfl

/-- Whether a wait is a double, and how it fails to be one, does not depend on the draw. -/
theorem delayBeforeRetry_cases (p : RetryPolicy) (attempt : Int) (x y : Float) :
    (∃ o, p.delayBeforeRetry attempt x = .error o ∧ p.delayBeforeRetry attempt y = .error o) ∨
      ∃ d d', p.delayBeforeRetry attempt x = .ok d ∧ p.delayBeforeRetry attempt y = .ok d' := by
  unfold delayBeforeRetry
  cases p.baseDelay attempt with
  | error o => exact .inl ⟨o, rfl, rfl⟩
  | ok base =>
      simp only [mul_float, bind, Except.bind]
      cases base.mul p.randomizationFactor with
      | error o => exact .inl ⟨o, rfl, rfl⟩
      | ok spread =>
          dsimp only
          cases spread.toFloat with
          | error o => exact .inl ⟨o, rfl, rfl⟩
          | ok share =>
              simp only [add_float, Except.bind]
              cases base.toFloat with
              | error o => exact .inl ⟨o, rfl, rfl⟩
              | ok wait => exact .inr ⟨_, _, rfl, rfl⟩

end Bazaar.RetryPolicy
