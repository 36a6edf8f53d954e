import Bazaar.Platform.Usual
import Bazaar.Proofs.Decimal.Order
import Bazaar.Proofs.Engine.Requests

/-!
# Waits between attempts

The wait after an attempt lies between zero and its cap, whatever the draw says, as long as what it
is made of is a double.  The power of two that multiplies the delay is formed before the cap is
applied, so that late attempts have no wait at all; a search whose attempts all fail ends for one of
these reasons: no attempt is left, or a number is no double.
-/

namespace Bazaar

namespace Decimal

theorem two_pow_lt_sub_iff (k b c : Nat) (room : b + 1 < c) : 2 ^ k < 2 ^ c - 2 ^ b ↔ k < c := by
  constructor
  · intro less
    exact (Nat.pow_lt_pow_iff_right Nat.one_lt_two).mp (less.trans_le (Nat.sub_le _ _))
  · intro small
    have sum : 2 ^ k + 2 ^ (b + 1) ≤ 2 ^ c := IsWhole.two_pow_add_two_pow_le small room
    have half : 2 ^ b < 2 ^ (b + 1) := Nat.pow_lt_pow_succ Nat.one_lt_two
    exact Nat.lt_sub_of_add_lt ((Nat.add_lt_add_left half _).trans_le sum)

theorem two_pow_lt_limit_iff (k : Nat) : 2 ^ k < limit ↔ k < 1024 :=
  two_pow_lt_sub_iff k 970 1024 (by decide)

end Decimal

namespace RetryPolicy

open Decimal (limit)

variable {p : RetryPolicy}

/-- Whether the wait after an attempt is made of doubles: those of a delay that is a double end with
the powers of two, and those of an integer with its multiples. -/
def WaitInRange (p : RetryPolicy) (attempt : Nat) : Prop :=
  match p.delayFactor with
  | .float _ => attempt ≤ 1024
  | .int n => n.natAbs * 2 ^ (attempt - 1) < limit

theorem float_mul_int (x : Float) (n : Int) :
    (Number.float x).mul (.int n) = (Number.floatOfInt n).bind fun y => .ok (.float (x * y)) :=
  rfl

theorem int_mul_float (n : Int) (x : Float) :
    (Number.int n).mul (.float x) = (Number.floatOfInt n).bind fun y => .ok (.float (y * x)) :=
  rfl

/-- Whether a wait that is neither moved nor capped is a double or becomes one. -/
theorem baseDelay_cases (p : RetryPolicy) (attempt : Nat) :
    (p.WaitInRange attempt ∧ ∃ base x, p.baseDelay attempt = .ok base ∧ base.toFloat = .ok x) ∨
      (¬p.WaitInRange attempt ∧ (p.baseDelay attempt = .error .intToFloat ∨
        ∃ base, p.baseDelay attempt = .ok base ∧ base.toFloat = .error .intToFloat)) := by
  have places : (max (attempt : Int) 1 - 1).toNat = attempt - 1 := by omega
  unfold baseDelay WaitInRange
  rw [places, Nat.shiftLeft_eq, Nat.one_mul]
  cases p.delayFactor with
  | float x =>
      have small : attempt ≤ 1024 ↔ ((2 ^ (attempt - 1) : Nat) : Int).natAbs < limit := by
        rw [Int.natAbs_natCast, Decimal.two_pow_lt_limit_iff]
        omega
      rcases Nat.lt_or_ge ((2 ^ (attempt - 1) : Nat) : Int).natAbs limit with inRange | wide
      · obtain ⟨y, power⟩ := (Number.floatOfInt_eq_ok_iff _).mpr inRange
        refine .inl ⟨small.mpr inRange, .float (x * y), x * y, ?_, rfl⟩
        rw [float_mul_int, power]
        rfl
      · have power := (Number.floatOfInt_eq_error_iff _).mpr wide
        refine .inr ⟨fun early => absurd (small.mp early) wide.not_gt, .inl ?_⟩
        rw [float_mul_int, power]
        rfl
  | int n =>
      have magnitude : (n * (2 ^ (attempt - 1) : Nat)).natAbs = n.natAbs * 2 ^ (attempt - 1) := by
        rw [Int.natAbs_mul, Int.natAbs_natCast]
      dsimp only
      rw [← magnitude]
      rcases Nat.lt_or_ge (n * (2 ^ (attempt - 1) : Nat)).natAbs limit with inRange | wide
      · obtain ⟨y, product⟩ := (Number.floatOfInt_eq_ok_iff _).mpr inRange
        exact .inl ⟨inRange, _, y, rfl, product⟩
      · have product := (Number.floatOfInt_eq_error_iff _).mpr wide
        exact .inr ⟨wide.not_gt, .inr ⟨_, rfl, product⟩⟩

/-- A share of a wait is a double if the wait is. -/
theorem spread_of_double (accepted : p.fault? = none) {base : Number} {x : Float}
    (double : base.toFloat = .ok x) :
    ∃ spread y, base.mul p.randomizationFactor = .ok spread ∧ spread.toFloat = .ok y := by
  obtain ⟨-, -, -, -, low, high⟩ := fault?_eq_none_iff.mp accepted
  cases factor : p.randomizationFactor with
  | float r => exact ⟨_, _, by rw [mul_float, double]; rfl, rfl⟩
  | int m =>
      -- The only integers that are accepted are 0 and 1.
      have share : m = 0 ∨ m = 1 := by
        rw [factor] at low high
        simp [Number.atMost, Number.below, Number.same, zero] at low high
        omega
      cases base with
      | float y => rcases share with rfl | rfl <;> exact ⟨_, _, rfl, rfl⟩
      | int n =>
          refine ⟨.int (n * m), ?_⟩
          rcases share with rfl | rfl
          · exact ⟨0, rfl, by rw [Int.mul_zero]; rfl⟩
          · exact ⟨x, rfl, by rw [Int.mul_one]; exact double⟩

/-- The wait after an attempt lies between zero and its cap, whatever the draw. -/
theorem delayBeforeRetry_of_inRange (accepted : p.fault? = none) (capped : p.maxDelay.IsDefined)
    {attempt : Nat} (inRange : p.WaitInRange attempt) (draw : Float) :
    ∃ d, p.delayBeforeRetry attempt draw = .ok d ∧ zero.atMost d = true ∧
      d.atMost p.maxDelay = true := by
  obtain ⟨-, -, -, ⟨-, capLow⟩, -⟩ := fault?_eq_none_iff.mp accepted
  obtain ⟨-, base, x, isBase, double⟩ | ⟨outOfRange, -⟩ := p.baseDelay_cases attempt
  · obtain ⟨spread, y, isSpread, share⟩ := spread_of_double accepted double
    have positive : zero.atMost (.float 0.0) = true := by decide +kernel
    have lowest : (Number.float 0.0).atMost zero = true := by decide +kernel
    have cap := (Number.below_eq_false_iff capped (Number.isDefined_int 0)).mp capLow
    obtain ⟨low, high⟩ :=
      Number.greatest_least_between (Number.atMost_trans lowest cap) (.float (x + y * draw))
    refine ⟨_, ?_, Number.atMost_trans positive low, high⟩
    simp only [delayBeforeRetry, isBase, isSpread, mul_float, add_float, share, double, bind,
      Except.bind, pure, Except.pure]
  · exact absurd inRange outOfRange

/-- A wait that is not made of doubles overflows, whatever the draw. -/
theorem delayBeforeRetry_of_not_inRange {attempt : Nat} (outOfRange : ¬p.WaitInRange attempt)
    (draw : Float) : p.delayBeforeRetry attempt draw = .error .intToFloat := by
  obtain ⟨inRange, -⟩ | ⟨-, overflows | ⟨base, isBase, overflows⟩⟩ := p.baseDelay_cases attempt
  · exact absurd inRange outOfRange
  · rw [delayBeforeRetry, overflows]
    rfl
  · rw [delayBeforeRetry, isBase]
    obtain ⟨n, rfl, -⟩ := Number.toFloat_eq_error_iff.mp overflows
    simp only [bind, Except.bind]
    cases p.randomizationFactor with
    | float r =>
        rw [int_mul_float, show Number.floatOfInt n = .error .intToFloat from overflows]
        rfl
    | int m =>
        have product : (Number.int n).mul (.int m) = .ok (.int (n * m)) := rfl
        simp only [product, mul_float]
        cases share : (Number.int (n * m)).toFloat with
        | error o =>
            obtain ⟨-, -, -, rfl⟩ := Number.toFloat_eq_error_iff.mp share
            rfl
        | ok y =>
            simp only [Except.bind, add_float, overflows]

end RetryPolicy

namespace Engine

variable {e : Engine} {r : Request} {supply : Supply}

theorem firstFinal_of_none {final : Nat → Bool} {made left : Nat}
    (none_final : ∀ k, made < k → k ≤ made + left → final k = false) :
    firstFinal final made left = made + left := by
  have none_found : (List.range' (made + 1) left).find? final = none := by
    rw [List.find?_eq_none]
    intro k member
    rw [List.mem_range'_1] at member
    rw [none_final k (by omega) (by omega)]
    exact Bool.false_ne_true
  rw [firstFinal, none_found]
  rfl

theorem requests_journey [Platform] (r : Request) (supply : Supply) (last : Nat) :
    (e.journey r supply 0 (last + 1)).filterMap Act.request? =
      (List.range' 1 (last + 1)).map (e.requestOf r) := by
  have behind (ks : List Nat) : (ks.flatMap fun k =>
      [Act.pause (e.waitAfter supply k), Act.request (e.requestOf r (k + 1))]).filterMap
        Act.request? = (ks.map (1 + ·)).map (e.requestOf r) := by
    induction ks with
    | nil => rfl
    | cons k ks ih =>
        rw [List.flatMap_cons, List.filterMap_append, ih, Nat.add_comm k 1]
        rfl
  rw [journey, List.filterMap_cons, behind, List.map_add_range', List.range'_succ]
  rfl

/-- What a search whose attempts all fail needs to come to its last attempt: every time limit is a
double, and every wait is made of doubles. -/
def Endures (p : RetryPolicy) : Prop :=
  (∀ k : Nat, 0 < k → k ≤ p.maxAttempts → ∃ x, (p.timeoutFor k).toFloat = .ok x) ∧
    ∀ k : Nat, 0 < k → k < p.maxAttempts → p.WaitInRange k

theorem inRange_iff_endures (accepted : e.policy.fault? = none)
    (capped : e.policy.maxDelay.IsDefined) {last : Nat}
    (isLast : (last : Int) = e.policy.maxAttempts) :
    e.InRange supply 0 last ↔ Endures e.policy := by
  unfold InRange Endures
  rw [← isLast]
  simp only [Nat.cast_le, Nat.cast_lt]
  apply and_congr_right
  intro _
  refine forall_congr' fun k => imp_congr_right fun _ => imp_congr_right fun _ => ?_
  constructor
  · rintro ⟨d, wait⟩
    by_contra outOfRange
    rw [RetryPolicy.delayBeforeRetry_of_not_inRange outOfRange] at wait
    cases wait
  · intro inRange
    obtain ⟨d, wait, -⟩ := RetryPolicy.delayBeforeRetry_of_inRange accepted capped inRange
      (supply.draws (k - 1))
    exact ⟨d, wait⟩

/-- An outcome that calls for another attempt is a failure. -/
theorem exists_failure_of_callsForAnother {outcome : Except Raised Response}
    (calls : callsForAnother outcome = true) : ∃ f, outcome = .error (.failure f) := by
  unfold callsForAnother at calls
  split at calls
  · exact ⟨_, rfl⟩
  · cases calls

/-- The wait after an attempt lies between zero and its cap, whatever the draw, exactly while it is
made of doubles; and a search whose attempts all call for another makes all that are allowed and
ends with the failure of the last one, unless one of its numbers is no double, or its page or page
size is not written. -/
theorem waits_are_capped_or_overflow [Platform] (e : Engine) (r : Request)
    (accepted : e.policy.fault? = none) (capped : e.policy.maxDelay.IsDefined) :
    (∀ (attempt : Nat) (draw : Float),
      (e.policy.WaitInRange attempt →
        ∃ d, e.policy.delayBeforeRetry attempt draw = .ok d ∧ RetryPolicy.zero.atMost d = true ∧
          d.atMost e.policy.maxDelay = true) ∧
      (¬e.policy.WaitInRange attempt →
        e.policy.delayBeforeRetry attempt draw = .error .intToFloat)) ∧
    ∀ supply : Supply,
      (∀ k : Nat, 0 < k → k ≤ e.policy.maxAttempts →
        callsForAnother (e.outcome r supply k) = true) →
      let last := e.policy.maxAttempts.toNat
      let trace := (e.execute r).run supply {}
      (Reads r.params → Endures e.policy →
        trace.requests = (List.range' 1 last).map (e.requestOf r) ∧
        ∃ f, e.outcome r supply last = .error (.failure f) ∧
          trace.result = .ok {
            index := r.index
            query := r.term
            page := r.page
            hitsPerPage := r.hitsPerPage
            attempts := last
            failure := some f }) ∧
      (Reads r.params → ¬Endures e.policy → ∃ o, trace.result = .error (.overflow o)) ∧
      ∀ fault, r.params = .error fault →
        trace.requests = [] ∧ trace.result = .error fault.raised := by
  constructor
  · intro attempt draw
    exact ⟨fun inRange => RetryPolicy.delayBeforeRetry_of_inRange accepted capped inRange draw,
      fun outOfRange => RetryPolicy.delayBeforeRetry_of_not_inRange outOfRange draw⟩
  · intro supply allCall last trace
    obtain ⟨left, count⟩ := RetryPolicy.exists_maxAttempts_eq accepted
    have lastEq : last = left + 1 := by
      unfold last
      rw [count, Int.toNat_natCast]
    have ends : e.lastAttempt r supply = last := by
      refine (firstFinal_of_none fun k behind upTo => ?_).trans (Nat.zero_add _)
      rw [allCall k behind (by omega), Bool.not_true]
    have follows := execute_follows (r := r) supply accepted
    rw [ends] at follows
    have endures : e.InRange supply 0 last ↔ Endures e.policy :=
      inRange_iff_endures accepted capped (by rw [lastEq, count])
    refine ⟨fun written enduring => ?_, fun written notEnduring => ?_, fun fault fails => ?_⟩
    · have inRange := endures.mpr enduring
      obtain ⟨f, failed⟩ :=
        exists_failure_of_callsForAnother (allCall last (by omega) (by omega))
      refine ⟨?_, f, failed, ?_⟩
      · rw [Trace.requests, (follows written).acts inRange, lastEq]
        exact requests_journey r supply left
      · rw [(follows written).result inRange, verdict, failed]
    · exact (follows written).overflow fun inRange => notEnduring (endures.mp inRange)
    · simp only [trace, execute_of_unwritten e fails]
      exact ⟨rfl, rfl⟩

/-- A service that stays busy: the wait after attempt 1025 multiplies the delay by a power of two
that is no double. -/
theorem waits_are_capped_or_overflow_on_busy_service :
    letI := Platform.usual
    let e : Engine := {
      client := ⟨{ host := "a.b".toList }, "A", "K"⟩
      policy := { maxAttempts := 1026 } }
    let supply : Supply := {
      draws := fun _ => 0.5
      times := fun _ => 0
      deliveries := fun _ => .raised (.failure ⟨.server, "busy", some 503⟩) }
    e.policy.fault? = none ∧ e.policy.maxDelay.IsDefined ∧
      (∃ d, e.policy.delayBeforeRetry 1024 0.5 = .ok d ∧ d.atMost e.policy.maxDelay = true) ∧
      e.policy.delayBeforeRetry 1025 0.5 = .error .intToFloat ∧
      ∃ o, ((e.execute { index := "shops" }).run supply {}).result = .error (.overflow o) := by
  let _ := Platform.usual
  intro e supply
  have accepted : e.policy.fault? = none := by decide +kernel
  have written : Reads (Request.params { index := "shops" }) := Request.reads_params_iff.mpr
    ⟨Platform.allows_of_le (by decide), Platform.allows_of_le (by decide)⟩
  have capped : e.policy.maxDelay.IsDefined := ⟨_, rfl⟩
  obtain ⟨waits, runs⟩ :=
    waits_are_capped_or_overflow e { index := "shops" } accepted capped
  have late : ¬e.policy.WaitInRange 1025 := Nat.not_succ_le_self 1024
  obtain ⟨d, wait, -, atMost⟩ := (waits 1024 0.5).1 (Nat.le_refl 1024)
  refine ⟨accepted, capped, ⟨d, wait, atMost⟩, (waits 1025 0.5).2 late, ?_⟩
  obtain ⟨-, overflows, -⟩ := runs supply fun k _ _ => rfl
  exact overflows written fun endures => late (endures.2 1025 (by decide) (by decide))

end Engine

end Bazaar
