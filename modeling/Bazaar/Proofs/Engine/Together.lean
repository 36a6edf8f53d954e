import Bazaar.Proofs.Engine.Attempts
import Bazaar.Proofs.Together

/-!
# Searches at once

A search is steady: of what it draws and of the time that it is told, only the lengths of its pauses
and its reports can depend.  So searches that run at once on one engine, and share its draws, keep
out of each other's way.
-/

namespace Bazaar

theorem Client.steady_postQuery [Platform] (c : Client) (index params : String)
    (timeout : Option Number) :
    (c.postQuery index params timeout).Steady := by
  unfold postQuery
  cases timeout.mapM Number.toFloat with
  | error o => exact .done _
  | ok _ => exact .exchange _ fun _ => .done _

namespace Engine

variable {e : Engine} {r : Request} {physical params : String}

/-- Whether two searches stand at the same point, whenever they began. -/
structure SamePoint (s s' : RetryState) : Prop where
  attempt : s.attempt = s'.attempt
  lastError : s.lastError = s'.lastError

theorem degraded_congr {s s' : RetryState} (same : SamePoint s s') :
    degraded r s = degraded r s' := by
  rw [degraded, degraded, same.attempt, same.lastError]

theorem similar_giveUp {s s' : RetryState} (same : SamePoint s s') :
    Task.Similar (giveUp r physical s) (giveUp r physical s') := by
  unfold giveUp
  rw [degraded_congr same]
  exact .clock fun _ _ => .log _ _ (.done _)

/-- What follows the outcome of an attempt: the wait may have another length, but whether there is
one does not depend on the draw. -/
theorem similar_settle {again again' : RetryState → Task (Except Raised SearchResult)}
    (rest : ∀ {s s'}, SamePoint s s' → (again s).Similar (again' s')) {s s' : RetryState}
    (same : SamePoint s s') (outcome : Except Raised Response) :
    (e.settle r physical again s outcome).Similar (e.settle r physical again' s' outcome) := by
  rcases outcome with (f | fault | o) | answer
  · have recorded : SamePoint (s.recordFailure (.failure f)) (s'.recordFailure (.failure f)) :=
      ⟨same.attempt, rfl⟩
    have count : (s'.recordFailure (.failure f)).attempt = (s.recordFailure (.failure f)).attempt :=
      recorded.attempt.symm
    simp only [settle, count]
    split
    · rw [degraded_congr recorded]
      exact .log _ _ (.done _)
    split
    · exact similar_giveUp recorded
    split
    · exact .done _
    refine .draw fun x y => ?_
    rcases e.policy.delayBeforeRetry_cases (s.recordFailure (.failure f)).attempt x y with
      ⟨o, first, second⟩ | ⟨d, d', first, second⟩
    · rw [first, second]
      exact .done _
    · rw [first, second]
      exact .log _ _ (.sleep _ _ (rest recorded))
  · exact .done _
  · exact .done _
  · rw [settle, settle, same.attempt]
    exact .log _ _ (.done _)

theorem similar_attempts [Platform] (left : Nat) {s s' : RetryState} (same : SamePoint s s') :
    (e.attempts r physical params left s).Similar (e.attempts r physical params left s') := by
  induction left generalizing s s' with
  | zero => exact similar_giveUp same
  | succ left ih =>
      have begun : SamePoint s.beginAttempt s'.beginAttempt :=
        ⟨congrArg (· + 1) same.attempt, same.lastError⟩
      have count : s'.beginAttempt.attempt = s.beginAttempt.attempt := begun.attempt.symm
      simp only [attempts, count]
      split
      · exact .done _
      · refine .log _ _ ((Client.steady_postQuery _ _ _ _).bind fun payload => ?_)
        exact (similar_settle ih begun _).logAll _

/-- A search does the same on the same deliveries, but for the lengths of its pauses. -/
theorem steady_execute [Platform] (e : Engine) (r : Request) : (e.execute r).Steady := by
  rw [execute]
  cases r.params with
  | error fault => exact .done _
  | ok params => exact .clock fun _ _ => .log _ _ (similar_attempts _ ⟨rfl, rfl⟩)

/-- Searches that run at once on one engine keep out of each other's way.  Whatever the order of
their turns and whatever all of them draw and are told, a search that is answered as it is alone
does alone what it does among the others: so far it has sent a part of the requests that it sends
alone, with pauses at the same places; once it has ended, it has sent all of them, and its result is
the result that it has alone; and it has ended when it has had the turns that it needs alone. -/
theorem execute_undisturbed [Platform] (e : Engine) (searches : List Request) (common : CommonSupply)
    (order : List Nat) (i : Fin searches.length) (draws times : Nat → Float) :
    let crowd := (Crowd.start (searches.map e.execute)).run common order
    let alone : Supply := ⟨draws, times, common.deliveries i⟩
    let solo := (e.execute searches[i]).run alone {}
    ∃ c, crowd.calls[i]? = some c ∧
      c.acts.map Act.request? <+: solo.acts.map Act.request? ∧
      (∀ result, c.result? = some result →
        result = solo.result ∧ c.acts.map Act.request? = solo.acts.map Act.request? ∧
          c.acts.filterMap Act.request? = solo.requests) ∧
      ((e.execute searches[i]).turns 2 alone {} ≤ order.count i.val → c.result?.isSome) := by
  intro crowd alone solo
  have listed : (searches.map e.execute)[i.val]? = some (e.execute searches[i]) := by simp
  obtain ⟨c, found, keeps⟩ := Crowd.exists_call common listed (steady_execute e _) order
  have deliveries : (common.supply i).deliveries = alone.deliveries := rfl
  have outline : ((e.execute searches[i]).run (common.supply i) {}).outline = solo.outline :=
    (steady_execute e _).outline_eq deliveries rfl
  have turns : (e.execute searches[i]).turns 2 (common.supply i) {} =
      (e.execute searches[i]).turns 2 alone {} := (steady_execute e _).turns_eq deliveries rfl
  rw [outline, turns] at keeps
  refine ⟨c, found, keeps.acts_prefix, fun result ended => ?_, fun served => ?_⟩
  · obtain ⟨acts, sameResult⟩ := Prod.mk.inj (keeps.outline_of_result? ended)
    have sent := congrArg (List.filterMap id) acts
    rw [List.filterMap_map, List.filterMap_map] at sent
    exact ⟨sameResult.symm, acts.symm, sent.symm⟩
  · rw [Nat.sub_eq_zero_of_le served] at keeps
    exact keeps.isSome_result?

end Engine

end Bazaar
