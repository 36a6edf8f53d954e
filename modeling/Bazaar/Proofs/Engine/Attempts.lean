import Bazaar.Engine
import Bazaar.Platform.Usual
import Bazaar.Proofs.Query.Parameters
import Bazaar.Proofs.Retry
import Bazaar.Proofs.Task

/-!
# The attempts of a search

Which attempts a search makes, what it waits between them and how it ends, said without the loop
that makes them.  The attempts go on up to the first whose outcome does not call for another one, or
up to the last that the policy allows.  The only other way out is a time limit or a wait that is no
double.
-/

namespace Bazaar

/-- The parameters of a request, if they are written. -/
def Request.written [Platform] (r : Request) : String :=
  r.params.toOption.getD ""

namespace Engine

/-! ## The reference run -/

variable [Platform]

section Reference

variable (e : Engine) (r : Request) (supply : Supply)

/-- The request that an attempt sends. -/
def requestOf (attempt : Nat) : WireRequest :=
  e.client.request (e.physicalIndex r) r.written (some (e.policy.timeoutFor attempt))

/-- The run of the loop behind the attempts `made`, with `left` more allowed. -/
def loopRun (made left : Nat) (s : RetryState) : Trace (Except Raised SearchResult) :=
  (e.attempts r (e.physicalIndex r) r.written left s).run supply ⟨made, 1, made⟩

/-- What an attempt comes to: the delivery with its number, read as an answer. -/
def outcome (attempt : Nat) : Except Raised Response :=
  (readPayload (HitKind.ofName (e.spec r.index).kind) r.hitsPerPage
    ((supply.deliveries (attempt - 1)).payload (e.requestOf r attempt))).2

/-- Whether an outcome is a failure that calls for another attempt. -/
def callsForAnother : Except Raised Response → Bool
  | .error (.failure f) =>
    [FailureKind.timeout, .connection, .dns, .transport, .server].contains f.kind
  | _ => false

/-- The first of `left` attempts behind those `made` that is final, or the last of them. -/
def firstFinal (final : Nat → Bool) (made left : Nat) : Nat :=
  ((List.range' (made + 1) left).find? final).getD (made + left)

/-- The number of the attempt with which a search ends. -/
def lastAttempt : Nat :=
  firstFinal (fun k => !callsForAnother (e.outcome r supply k)) 0 e.policy.maxAttempts.toNat

/-- The wait behind an attempt on the draw with its number, if it is a double. -/
def waitAfter (attempt : Nat) : Number :=
  (e.policy.delayBeforeRetry attempt (supply.draws (attempt - 1))).toOption.getD
    RetryPolicy.zero

/-- Whether the time limits of the attempts behind those `made` and the waits between them are
doubles. -/
def InRange (made last : Nat) : Prop :=
  (∀ k, made < k → k ≤ last → ∃ x, (e.policy.timeoutFor k).toFloat = .ok x) ∧
    ∀ k, made < k → k < last →
      ∃ d, e.policy.delayBeforeRetry k (supply.draws (k - 1)) = .ok d

/-- The requests of the attempts behind those `made`, with a wait between any two. -/
def journey (made last : Nat) : List Act :=
  .request (e.requestOf r (made + 1)) ::
    (List.range' (made + 1) (last - made - 1)).flatMap fun k =>
      [.pause (e.waitAfter supply k), .request (e.requestOf r (k + 1))]

/-- The result of a search that ends with an attempt. -/
def verdict (attempt : Nat) : Except Raised SearchResult :=
  match e.outcome r supply attempt with
  | .ok answer => .ok (success r answer attempt)
  | .error (.failure f) =>
    .ok {
      index := r.index
      query := r.term
      hits := []
      totalHits := 0
      page := r.page
      hitsPerPage := r.hitsPerPage
      attempts := attempt
      failure := some f }
  | .error raised => .error raised

end Reference

variable {e : Engine} {r : Request} {supply : Supply}

omit [Platform] in
theorem callsForAnother_failure (f : Failure) :
    callsForAnother (.error (.failure f)) = f.kind.isTransient := by
  rcases f with ⟨kind, message, status⟩
  cases kind <;> rfl

/-! ## Counting attempts -/

omit [Platform] in
theorem firstFinal_of_final {final : Nat → Bool} {made left : Nat}
    (isFinal : final (made + 1) = true) :
    firstFinal final made (left + 1) = made + 1 := by
  simp [firstFinal, List.range'_succ, isFinal]

omit [Platform] in
theorem firstFinal_of_not_final {final : Nat → Bool} {made left : Nat}
    (notFinal : final (made + 1) = false) :
    firstFinal final made (left + 1) = firstFinal final (made + 1) left := by
  simp only [firstFinal, List.range'_succ, List.find?_cons, notFinal]
  rw [Nat.add_right_comm made 1 left, Nat.add_assoc made left 1]

omit [Platform] in
theorem lt_firstFinal (final : Nat → Bool) (made left : Nat) :
    made < firstFinal final made (left + 1) := by
  unfold firstFinal
  cases found : (List.range' (made + 1) (left + 1)).find? final with
  | none => simp
  | some k =>
      have member := List.mem_of_find?_eq_some found
      rw [List.mem_range'_1] at member
      exact member.1

omit [Platform] in
theorem firstFinal_le (final : Nat → Bool) (made left : Nat) :
    firstFinal final made left ≤ made + left := by
  unfold firstFinal
  cases found : (List.range' (made + 1) left).find? final with
  | none => simp
  | some k =>
      have member := List.mem_of_find?_eq_some found
      rw [List.mem_range'_1] at member
      simp only [Option.getD_some]
      omega

theorem journey_last (made : Nat) :
    e.journey r supply made (made + 1) = [.request (e.requestOf r (made + 1))] := by
  simp [journey]

theorem journey_of_lt {made last : Nat} (more : made + 1 < last) :
    e.journey r supply made last =
      .request (e.requestOf r (made + 1)) :: .pause (e.waitAfter supply (made + 1)) ::
        e.journey r supply (made + 1) last := by
  obtain ⟨behind, rfl⟩ := Nat.exists_eq_add_of_lt more
  have count : made + 1 + behind + 1 - made - 1 = behind + 1 := by omega
  have rest : made + 1 + behind + 1 - (made + 1) - 1 = behind := by omega
  simp only [journey, count, rest, List.range'_succ, List.flatMap_cons, List.cons_append,
    List.nil_append]

/-! ## Traces against the reference -/

/-- A trace behind some attempts keeps to the reference, unless a number is out of range. -/
structure Follows (e : Engine) (r : Request) (supply : Supply) (made last : Nat)
    (t : Trace (Except Raised SearchResult)) : Prop where
  acts : e.InRange supply made last → t.acts = e.journey r supply made last
  result : e.InRange supply made last → t.result = e.verdict r supply last
  overflow : ¬e.InRange supply made last → ∃ o, t.result = .error (.overflow o)

theorem Follows.of_timeout {made last : Nat} {t : Trace (Except Raised SearchResult)}
    {o : Overflow} (some_left : made < last)
    (timeout : (e.policy.timeoutFor (made + 1 : Nat)).toFloat = .error o)
    (result : t.result = .error (.overflow o)) : Follows e r supply made last t := by
  have outOfRange : ¬e.InRange supply made last := by
    intro inRange
    obtain ⟨x, double⟩ := inRange.1 (made + 1) (Nat.lt_succ_self made) some_left
    rw [timeout] at double
    contradiction
  exact ⟨fun h => absurd h outOfRange, fun h => absurd h outOfRange, fun _ => ⟨o, result⟩⟩

theorem Follows.of_wait {made last : Nat} {t : Trace (Except Raised SearchResult)}
    {o : Overflow} (more : made + 1 < last)
    (wait : e.policy.delayBeforeRetry (made + 1 : Nat) (supply.draws made) = .error o)
    (result : t.result = .error (.overflow o)) : Follows e r supply made last t := by
  have outOfRange : ¬e.InRange supply made last := by
    intro inRange
    obtain ⟨d, double⟩ := inRange.2 (made + 1) (Nat.lt_succ_self made) more
    rw [Nat.add_sub_cancel, wait] at double
    contradiction
  exact ⟨fun h => absurd h outOfRange, fun h => absurd h outOfRange, fun _ => ⟨o, result⟩⟩

omit [Platform] in
theorem inRange_last {made : Nat} {x : Float}
    (timeout : (e.policy.timeoutFor (made + 1 : Nat)).toFloat = .ok x) :
    e.InRange supply made (made + 1) := by
  constructor
  · intro k behind upTo
    obtain rfl : k = made + 1 := by omega
    exact ⟨x, timeout⟩
  · intro k behind before
    omega

theorem Follows.last {made : Nat} {x : Float} {t : Trace (Except Raised SearchResult)}
    (timeout : (e.policy.timeoutFor (made + 1 : Nat)).toFloat = .ok x)
    (acts : t.acts = [.request (e.requestOf r (made + 1))])
    (result : t.result = e.verdict r supply (made + 1)) :
    Follows e r supply made (made + 1) t :=
  ⟨fun _ => acts.trans (journey_last made).symm, fun _ => result,
    fun outOfRange => absurd (inRange_last timeout) outOfRange⟩

omit [Platform] in
theorem inRange_succ_iff {made last : Nat} {x : Float} {d : Number}
    (timeout : (e.policy.timeoutFor (made + 1 : Nat)).toFloat = .ok x)
    (wait : e.policy.delayBeforeRetry (made + 1 : Nat) (supply.draws made) = .ok d) :
    e.InRange supply made last ↔ e.InRange supply (made + 1) last := by
  constructor
  · rintro ⟨timeouts, waits⟩
    exact ⟨fun k behind => timeouts k (by omega), fun k behind => waits k (by omega)⟩
  · rintro ⟨timeouts, waits⟩
    constructor
    · intro k behind upTo
      rcases Nat.eq_or_lt_of_le behind with rfl | later
      · exact ⟨x, timeout⟩
      · exact timeouts k later upTo
    · intro k behind before
      rcases Nat.eq_or_lt_of_le behind with rfl | later
      · exact ⟨d, wait⟩
      · exact waits k later before

omit [Platform] in
theorem waitAfter_of_ok {made : Nat} {d : Number}
    (wait : e.policy.delayBeforeRetry (made + 1 : Nat) (supply.draws made) = .ok d) :
    e.waitAfter supply (made + 1) = d := by
  unfold waitAfter
  rw [Nat.add_sub_cancel, wait]
  rfl

theorem Follows.next {made last : Nat} {x : Float} {d : Number}
    {t : Trace (Except Raised SearchResult)} (more : made + 1 < last)
    (timeout : (e.policy.timeoutFor (made + 1 : Nat)).toFloat = .ok x)
    (wait : e.policy.delayBeforeRetry (made + 1 : Nat) (supply.draws made) = .ok d)
    (rest : Follows e r supply (made + 1) last t) :
    Follows e r supply made last
      ((t.after (.pause d)).after (.request (e.requestOf r (made + 1)))) := by
  have range : e.InRange supply made last ↔ e.InRange supply (made + 1) last :=
    inRange_succ_iff timeout wait
  constructor
  · intro inRange
    rw [journey_of_lt more, waitAfter_of_ok wait, ← rest.acts (range.mp inRange)]
    rfl
  · intro inRange
    exact rest.result (range.mp inRange)
  · intro outOfRange
    exact rest.overflow fun inRange => outOfRange (range.mpr inRange)

/-! ## The loop -/

theorem run_postQuery (c : Client) (index params : String) {timeout : Number} {x : Float}
    (double : timeout.toFloat = .ok x) (f : Except Raised Members → Task α) (used : Usage) :
    ((c.postQuery index params (some timeout)).bind f).run supply used =
      ((f ((supply.deliveries used.deliveries).payload
        (c.request index params (some timeout)))).run supply
          { used with deliveries := used.deliveries + 1 }).after
        (.request (c.request index params (some timeout))) := by
  have checked : (some timeout).mapM Number.toFloat = .ok (some x) := by
    rw [Option.mapM_some, double]
    rfl
  simp only [Client.postQuery, checked, Task.bind, Task.run]

section Settle

variable {physical : String} {again : RetryState → Task (Except Raised SearchResult)}
  {s : RetryState} {f : Failure} (used : Usage)

omit [Platform] in
theorem settle_of_final (final : f.kind.isTransient = false) :
    (e.settle r physical again s (.error (.failure f))).run supply used =
      ⟨[], .ok (degraded r (s.recordFailure (.failure f)))⟩ := by
  simp [settle, final]

omit [Platform] in
theorem settle_of_refused (refused : e.policy.shouldRetry f.kind s.attempt = false) :
    (e.settle r physical again s (.error (.failure f))).run supply used =
      ⟨[], .ok (degraded r (s.recordFailure (.failure f)))⟩ := by
  cases transient : f.kind.isTransient with
  | false => exact settle_of_final used transient
  | true =>
      simp only [settle, transient, RetryState.recordFailure, refused]
      rfl

omit [Platform] in
/-- A wait that is no double ends the search. -/
theorem settle_of_overflow {o : Overflow}
    (granted : e.policy.shouldRetry f.kind s.attempt = true)
    (wait : e.policy.delayBeforeRetry s.attempt (supply.draws used.draws) = .error o) :
    (e.settle r physical again s (.error (.failure f))).run supply used =
      ⟨[], .error (.overflow o)⟩ := by
  have transient : f.kind.isTransient = true := by
    simp only [RetryPolicy.shouldRetry, Bool.and_eq_true] at granted
    exact granted.2
  simp only [settle, transient, RetryState.recordFailure, granted]
  cases base : e.policy.baseDelay s.attempt with
  | error o' =>
      rw [RetryPolicy.delayBeforeRetry, base] at wait
      cases wait
      rfl
  | ok b => simp [Task.run, wait]

omit [Platform] in
/-- After a wait there is another attempt. -/
theorem settle_of_granted {d : Number}
    (granted : e.policy.shouldRetry f.kind s.attempt = true)
    (wait : e.policy.delayBeforeRetry s.attempt (supply.draws used.draws) = .ok d) :
    (e.settle r physical again s (.error (.failure f))).run supply used =
      ((again (s.recordFailure (.failure f))).run supply
        { used with draws := used.draws + 1 }).after (.pause d) := by
  have transient : f.kind.isTransient = true := by
    simp only [RetryPolicy.shouldRetry, Bool.and_eq_true] at granted
    exact granted.2
  cases base : e.policy.baseDelay s.attempt with
  | error o =>
      rw [RetryPolicy.delayBeforeRetry, base] at wait
      cases wait
  | ok b =>
      simp [settle, transient, RetryState.recordFailure, granted, base, Task.run, wait]

theorem verdict_of_failure {attempt : Nat} (count : s.attempt = attempt)
    (outcomeEq : e.outcome r supply attempt = .error (.failure f)) :
    e.verdict r supply attempt = .ok (degraded r (s.recordFailure (.failure f))) := by
  rw [verdict, outcomeEq, ← count]
  rfl

end Settle

omit [Platform] in
theorem shouldRetry_eq (kind : FailureKind) {attempt left : Nat}
    (total : ((attempt + left : Nat) : Int) = e.policy.maxAttempts) :
    e.policy.shouldRetry kind attempt = (decide (0 < left) && kind.isTransient) := by
  rw [RetryPolicy.shouldRetry, ← total]
  congr 1
  rw [decide_eq_decide]
  omega

/-- One attempt at a time: if what comes after a wait keeps to the reference, so does what comes
after the outcome of an attempt. -/
theorem settle_follows {made left : Nat} {s : RetryState} {x : Float}
    {again : RetryState → Task (Except Raised SearchResult)} (count : s.attempt = made + 1)
    (total : ((made + 1 + left : Nat) : Int) = e.policy.maxAttempts)
    (timeout : (e.policy.timeoutFor (made + 1 : Nat)).toFloat = .ok x)
    (rest : ∀ {s' : RetryState}, 0 < left → s'.attempt = made + 1 →
      Follows e r supply (made + 1)
        (firstFinal (fun k => !callsForAnother (e.outcome r supply k)) (made + 1) left)
        ((again s').run supply ⟨made + 1, 1, made + 1⟩)) :
    Follows e r supply made
      (firstFinal (fun k => !callsForAnother (e.outcome r supply k)) made (left + 1))
      (((e.settle r (e.physicalIndex r) again s (e.outcome r supply (made + 1))).run supply
        ⟨made, 1, made + 1⟩).after (.request (e.requestOf r (made + 1)))) := by
  have final_of (notAgain : callsForAnother (e.outcome r supply (made + 1)) = false) :
      firstFinal (fun k => !callsForAnother (e.outcome r supply k)) made (left + 1) = made + 1 :=
    firstFinal_of_final (by rw [notAgain]; rfl)
  cases outcomeEq : e.outcome r supply (made + 1) with
  | ok answer =>
      rw [final_of (by rw [outcomeEq]; rfl)]
      refine .last timeout rfl ?_
      rw [verdict, outcomeEq, settle, count]
      rfl
  | error raised =>
      rcases raised with f | fault | o
      · have verdictEq := verdict_of_failure count outcomeEq
        have retry := shouldRetry_eq f.kind total
        rw [← count] at retry
        cases transient : f.kind.isTransient with
        | false =>
            rw [final_of (by rw [outcomeEq, callsForAnother_failure, transient]),
              settle_of_final _ transient]
            exact .last timeout rfl verdictEq.symm
        | true =>
            rw [firstFinal_of_not_final
              (by rw [outcomeEq, callsForAnother_failure, transient]; rfl)]
            rw [transient, Bool.and_true] at retry
            rcases Nat.eq_zero_or_pos left with rfl | someLeft
            · -- The policy allows no further attempt.
              rw [settle_of_refused _ retry]
              exact .last timeout rfl verdictEq.symm
            · rw [decide_eq_true someLeft] at retry
              have more := lt_firstFinal (fun k => !callsForAnother (e.outcome r supply k))
                (made + 1) (left - 1)
              rw [Nat.sub_add_cancel someLeft] at more
              cases wait : e.policy.delayBeforeRetry s.attempt (supply.draws made) with
              | error o =>
                  refine .of_wait more (count ▸ wait) ?_
                  exact congrArg Trace.result (settle_of_overflow ⟨made, 1, made + 1⟩ retry wait)
              | ok d =>
                  rw [settle_of_granted ⟨made, 1, made + 1⟩ retry wait]
                  exact .next more timeout (count ▸ wait) (rest someLeft count)
      · rw [final_of (by rw [outcomeEq]; rfl)]
        refine .last timeout rfl ?_
        rw [verdict, outcomeEq]
        rfl
      · rw [final_of (by rw [outcomeEq]; rfl)]
        refine .last timeout rfl ?_
        rw [verdict, outcomeEq]
        rfl

theorem attempt_follows {made left : Nat} {s : RetryState} (count : s.attempt = made)
    (total : ((made + 1 + left : Nat) : Int) = e.policy.maxAttempts)
    (rest : ∀ {s' : RetryState}, 0 < left → s'.attempt = made + 1 →
      Follows e r supply (made + 1)
        (firstFinal (fun k => !callsForAnother (e.outcome r supply k)) (made + 1) left)
        (e.loopRun r supply (made + 1) left s')) :
    Follows e r supply made
      (firstFinal (fun k => !callsForAnother (e.outcome r supply k)) made (left + 1))
      (e.loopRun r supply made (left + 1) s) := by
  subst count
  rw [loopRun, attempts]
  simp only [RetryState.beginAttempt]
  cases timeout : (e.policy.timeoutFor (s.attempt + 1 : Nat)).toFloat with
  | error o => exact .of_timeout (lt_firstFinal _ _ _) timeout rfl
  | ok x =>
      simp only [Task.run_log, run_postQuery _ _ _ timeout, Task.run_logAll]
      exact settle_follows rfl total timeout rest

theorem attempts_follow (left : Nat) {made : Nat} {s : RetryState} (count : s.attempt = made)
    (total : ((made + 1 + left : Nat) : Int) = e.policy.maxAttempts) :
    Follows e r supply made
      (firstFinal (fun k => !callsForAnother (e.outcome r supply k)) made (left + 1))
      (e.loopRun r supply made (left + 1) s) := by
  induction left generalizing made s with
  | zero => exact attempt_follows count total fun none_left => absurd none_left (Nat.lt_irrefl 0)
  | succ left ih =>
      refine attempt_follows count total fun _ count' => ih count' ?_
      rw [← total]
      omega

theorem lastAttempt_bounds (r : Request) (supply : Supply) (accepted : e.policy.fault? = none) :
    1 ≤ e.lastAttempt r supply ∧ e.lastAttempt r supply ≤ e.policy.maxAttempts := by
  obtain ⟨left, count⟩ := RetryPolicy.exists_maxAttempts_eq accepted
  have lower := lt_firstFinal (fun k => !callsForAnother (e.outcome r supply k)) 0 left
  have upper := firstFinal_le (fun k => !callsForAnother (e.outcome r supply k)) 0 (left + 1)
  rw [lastAttempt, count, Int.toNat_natCast]
  omega

/-- A search whose parameters are written is its loop. -/
theorem execute_of_written (e : Engine) {r : Request} (written : Reads r.params) :
    e.execute r = .clock fun now => .log (startEntry r (e.physicalIndex r))
      (e.attempts r (e.physicalIndex r) r.written e.policy.maxAttempts.toNat
        { startedAt := now }) := by
  obtain ⟨params, isOk⟩ := written
  have same : r.written = params := by
    rw [Request.written, isOk]
    rfl
  rw [execute, isOk, same]

theorem execute_of_unwritten (e : Engine) {r : Request} {fault : NumberFault}
    (fails : r.params = .error fault) : e.execute r = .done (.error fault.raised) := by
  rw [execute, fails]

theorem execute_follows (supply : Supply) (accepted : e.policy.fault? = none)
    (written : Reads r.params) :
    Follows e r supply 0 (e.lastAttempt r supply) ((e.execute r).run supply {}) := by
  obtain ⟨left, count⟩ := RetryPolicy.exists_maxAttempts_eq accepted
  rw [lastAttempt, execute_of_written e written, count, Int.toNat_natCast]
  refine attempts_follow left rfl ?_
  rw [count]
  omega

/-- A search keeps to its reference run: it ends with the first attempt whose outcome does not call
for another, or with the last one allowed.  It sends one request for each attempt, all to the same
index with the same parameters and each with its own time limit, waits once between any two of them
as long as its draw says, and gives back what the last attempt came to.  This holds exactly while
every time limit and every wait is a double; otherwise the search raises an overflow.  A request
whose page or page size the platform does not write is refused before anything is sent. -/
theorem execute_keeps_to_reference (e : Engine) (r : Request) (supply : Supply)
    (accepted : e.policy.fault? = none) :
    let last := e.lastAttempt r supply
    let trace := (e.execute r).run supply {}
    1 ≤ last ∧ last ≤ e.policy.maxAttempts ∧
      (∀ k : Nat, e.policy.timeouts[min (k - 1) (e.policy.timeouts.length - 1)]? =
        some (e.policy.timeoutFor k)) ∧
      (Reads r.params → e.InRange supply 0 last →
        trace.acts = .request (e.requestOf r 1) ::
          (List.range' 1 (last - 1)).flatMap (fun k =>
            [.pause (e.waitAfter supply k), .request (e.requestOf r (k + 1))]) ∧
        (∀ k, 1 ≤ k → k < last →
          e.policy.delayBeforeRetry k (supply.draws (k - 1)) = .ok (e.waitAfter supply k)) ∧
        trace.result = e.verdict r supply last) ∧
      (Reads r.params → ¬e.InRange supply 0 last → ∃ o, trace.result = .error (.overflow o)) ∧
      ∀ fault, r.params = .error fault →
        trace.acts = [] ∧ trace.result = .error fault.raised := by
  intro last trace
  have follows := execute_follows (r := r) supply accepted
  have bounds := lastAttempt_bounds r supply accepted
  refine ⟨bounds.1, bounds.2, RetryPolicy.getElem?_timeouts accepted, fun written inRange => ?_,
    fun written => (follows written).overflow, fun fault fails => ?_⟩
  · refine ⟨(follows written).acts inRange, ?_, (follows written).result inRange⟩
    intro k positive before
    obtain ⟨d, wait⟩ := inRange.2 k positive before
    rw [waitAfter, wait]
    rfl
  · simp only [trace, execute_of_unwritten e fails]
    exact ⟨rfl, rfl⟩

omit [Platform] in
/-- A search that meets a busy service first and a missing index then. -/
theorem execute_keeps_to_reference_on_refusal :
    letI := Platform.usual
    let e : Engine := { client := ⟨{ host := "a.b".toList }, "A", "K"⟩, policy := {} }
    let r : Request := { index := "shops" }
    let gone : Failure := ⟨.client, "gone", some 404⟩
    let supply : Supply := {
      draws := fun _ => 0.5
      times := fun _ => 0
      deliveries := fun k =>
        if k = 0 then .raised (.failure ⟨.server, "busy", some 503⟩) else .raised (.failure gone) }
    let trace := (e.execute r).run supply {}
    e.policy.fault? = none ∧ Reads r.params ∧
      trace.acts = [.request (e.requestOf r 1), .pause (e.waitAfter supply 1),
        .request (e.requestOf r 2)] ∧
      trace.result = .ok { index := "shops", query := "", hitsPerPage := 100, attempts := 2,
                           failure := some gone } := by
  let _ := Platform.usual
  intro e r gone supply trace
  have accepted : e.policy.fault? = none := by decide +kernel
  have written : Reads r.params := Request.reads_params_iff.mpr
    ⟨Platform.allows_of_le (by decide), Platform.allows_of_le (by decide)⟩
  obtain ⟨-, -, -, reference, -⟩ := execute_keeps_to_reference e r supply accepted
  have last : e.lastAttempt r supply = 2 := rfl
  have inRange : e.InRange supply 0 (e.lastAttempt r supply) := by
    rw [last]
    constructor
    · intro k behind upTo
      obtain rfl | rfl : k = 1 ∨ k = 2 := by omega
      · exact ⟨3.0, rfl⟩
      · exact ⟨5.0, rfl⟩
    · intro k behind before
      obtain rfl : k = 1 := by omega
      exact ⟨_, rfl⟩
  obtain ⟨acts, -, result⟩ := reference written inRange
  exact ⟨accepted, written, acts, result⟩

end Engine

end Bazaar
