import Bazaar.Proofs.Engine.Attempts

/-!
# The requests of a search

Whatever a search is answered, it sends the requests of its first attempts in order, and no others.
How many there are shows step by step: an attempt is followed by another one exactly if its outcome
calls for one, the policy allows one, and the wait and the next time limit are doubles.
-/

namespace Bazaar

namespace Engine

variable [Platform] (e : Engine) (r : Request) (supply : Supply)

/-- The run of an attempt whose time limit is a double: its request, and what follows the
outcome. -/
theorem loopRun_succ (made left : Nat) {s : RetryState} {x : Float}
    (timeout : (e.policy.timeoutFor (s.attempt + 1 : Nat)).toFloat = .ok x) :
    e.loopRun r supply made (left + 1) s =
      ((e.settle r (e.physicalIndex r) (e.attempts r (e.physicalIndex r) r.written left)
        s.beginAttempt (readPayload (HitKind.ofName (e.spec r.index).kind) r.hitsPerPage
          ((supply.deliveries made).payload (e.requestOf r (s.attempt + 1)))).2).run
            supply ⟨made, 1, made + 1⟩).after (.request (e.requestOf r (s.attempt + 1))) := by
  rw [loopRun, attempts]
  simp only [RetryState.beginAttempt, timeout, Task.run_log, run_postQuery _ _ _ timeout,
    Task.run_logAll]
  rfl

/-! ## One attempt -/

/-- What an attempt behind those `made` does to the run of a search when `left` more are allowed. -/
inductive Attempt (e : Engine) (r : Request) (supply : Supply) (made left : Nat)
    (t : Trace (Except Raised SearchResult)) : Prop where
  /-- Its outcome calls for no other, or none is allowed. -/
  | ends (final : callsForAnother (e.outcome r supply (made + 1)) = true → left = 0)
      (requests : t.requests = [e.requestOf r (made + 1)])
      (result : t.result = e.verdict r supply (made + 1))
  /-- Another one is called for and allowed, but the wait is no double. -/
  | overflows (calls : callsForAnother (e.outcome r supply (made + 1)) = true)
      {o : Overflow}
      (wait : e.policy.delayBeforeRetry (made + 1 : Nat) (supply.draws made) = .error o)
      (requests : t.requests = [e.requestOf r (made + 1)])
  /-- Another one follows. -/
  | goesOn (calls : callsForAnother (e.outcome r supply (made + 1)) = true) (allowed : 0 < left)
      {d : Number}
      (wait : e.policy.delayBeforeRetry (made + 1 : Nat) (supply.draws made) = .ok d)
      (s : RetryState) (count : s.attempt = made + 1)
      (requests : t.requests =
        e.requestOf r (made + 1) :: (e.loopRun r supply (made + 1) left s).requests)
      (result : t.result = (e.loopRun r supply (made + 1) left s).result)

variable {e r supply} {made left : Nat} {s : RetryState}

theorem attempt_of_timeout (r : Request) (supply : Supply) (count : s.attempt = made)
    (total : ((made + 1 + left : Nat) : Int) = e.policy.maxAttempts) {x : Float}
    (timeout : (e.policy.timeoutFor (made + 1 : Nat)).toFloat = .ok x) :
    Attempt e r supply made left (e.loopRun r supply made (left + 1) s) := by
  subst count
  rw [e.loopRun_succ r supply s.attempt left timeout]
  -- As many deliveries are used as attempts are made, so what is read is the outcome.
  change Attempt e r supply s.attempt left
    (((e.settle r (e.physicalIndex r) (e.attempts r (e.physicalIndex r) r.written left) s.beginAttempt
      (e.outcome r supply (s.attempt + 1))).run supply ⟨s.attempt, 1, s.attempt + 1⟩).after
        (.request (e.requestOf r (s.attempt + 1))))
  have final_of (notAgain : callsForAnother (e.outcome r supply (s.attempt + 1)) = false) :
      callsForAnother (e.outcome r supply (s.attempt + 1)) = true → left = 0 :=
    fun calls => absurd (notAgain.symm.trans calls) Bool.false_ne_true
  cases outcomeEq : e.outcome r supply (s.attempt + 1) with
  | ok answer =>
      refine .ends (final_of (by rw [outcomeEq]; rfl)) rfl ?_
      rw [verdict, outcomeEq]
      rfl
  | error raised =>
      rcases raised with f | fault | o
      · have begun : s.beginAttempt.attempt = s.attempt + 1 := rfl
        have verdictEq := verdict_of_failure begun outcomeEq
        have retry := shouldRetry_eq f.kind total
        rw [← begun] at retry
        have calls : callsForAnother (e.outcome r supply (s.attempt + 1)) = f.kind.isTransient := by
          rw [outcomeEq, callsForAnother_failure]
        cases transient : f.kind.isTransient with
        | false =>
            rw [settle_of_final _ transient]
            exact .ends (final_of (calls.trans transient)) rfl verdictEq.symm
        | true =>
            rw [transient, Bool.and_true] at retry
            rcases Nat.eq_zero_or_pos left with rfl | allowed
            · rw [settle_of_refused _ retry]
              exact .ends (fun _ => rfl) rfl verdictEq.symm
            · rw [decide_eq_true allowed] at retry
              cases wait : e.policy.delayBeforeRetry s.beginAttempt.attempt
                  (supply.draws s.attempt) with
              | error o =>
                  rw [settle_of_overflow ⟨s.attempt, 1, s.attempt + 1⟩ retry wait]
                  exact .overflows (calls.trans transient) wait rfl
              | ok d =>
                  rw [settle_of_granted ⟨s.attempt, 1, s.attempt + 1⟩ retry wait]
                  exact .goesOn (calls.trans transient) allowed wait
                    (s.beginAttempt.recordFailure (.failure f)) rfl rfl rfl
      · refine .ends (final_of (by rw [outcomeEq]; rfl)) rfl ?_
        rw [verdict, outcomeEq]
        rfl
      · refine .ends (final_of (by rw [outcomeEq]; rfl)) rfl ?_
        rw [verdict, outcomeEq]
        rfl

/-- An attempt whose time limit is no double sends nothing. -/
theorem requests_of_overflow {o : Overflow}
    (timeout : (e.policy.timeoutFor (s.attempt + 1 : Nat)).toFloat = .error o) :
    (e.loopRun r supply made (left + 1) s).requests = [] := by
  rw [loopRun, attempts]
  simp only [RetryState.beginAttempt, timeout]
  rfl

/-! ## How far a search comes -/

/-- A search has come to an attempt: the requests of those `made` are sent, and what is left of its
run is that of its loop, with `left` more attempts allowed behind this one. -/
structure Reaches (e : Engine) (r : Request) (supply : Supply) (made left : Nat) (s : RetryState) :
    Prop where
  count : s.attempt = made
  total : ((made + 1 + left : Nat) : Int) = e.policy.maxAttempts
  requests : ((e.execute r).run supply {}).requests =
    (List.range' 1 made).map (e.requestOf r) ++
      (e.loopRun r supply made (left + 1) s).requests
  result : ((e.execute r).run supply {}).result =
    (e.loopRun r supply made (left + 1) s).result

theorem exists_reaches_zero (supply : Supply) (accepted : e.policy.fault? = none)
    (written : Reads r.params) : ∃ left s, Reaches e r supply 0 left s := by
  obtain ⟨left, count⟩ := RetryPolicy.exists_maxAttempts_eq accepted
  refine ⟨left, { startedAt := supply.times 0 }, rfl, ?_, ?_, ?_⟩
  · rw [count]
    omega
  · rw [execute_of_written e written, count]
    rfl
  · rw [execute_of_written e written, count]
    rfl

namespace Reaches

variable (reaches : Reaches e r supply made left s)

include reaches

theorem length_requests :
    ((e.execute r).run supply {}).requests.length =
      made + (e.loopRun r supply made (left + 1) s).requests.length := by
  rw [reaches.requests, List.length_append, List.length_map, List.length_range']

/-- An attempt that is made has a double as its time limit. -/
theorem attempt (sent : made < ((e.execute r).run supply {}).requests.length) :
    Attempt e r supply made left (e.loopRun r supply made (left + 1) s) := by
  cases timeout : (e.policy.timeoutFor (made + 1 : Nat)).toFloat with
  | ok x => exact attempt_of_timeout r supply reaches.count reaches.total timeout
  | error o =>
      rw [← reaches.count] at timeout
      rw [reaches.length_requests, requests_of_overflow timeout] at sent
      exact absurd sent (Nat.lt_irrefl made)

theorem next (sent : made + 1 < ((e.execute r).run supply {}).requests.length) :
    ∃ left' s', Reaches e r supply (made + 1) left' s' := by
  have length := reaches.length_requests
  cases reaches.attempt (Nat.lt_of_succ_lt sent) with
  | ends _ requests _ =>
      rw [requests] at length
      exact absurd sent (by rw [length]; exact Nat.lt_irrefl _)
  | overflows _ _ requests =>
      rw [requests] at length
      exact absurd sent (by rw [length]; exact Nat.lt_irrefl _)
  | goesOn _ allowed _ s' count requests result =>
      obtain ⟨left, rfl⟩ := Nat.exists_eq_succ_of_ne_zero (Nat.ne_of_gt allowed)
      refine ⟨left, s', count, ?_, ?_, reaches.result.trans result⟩
      · rw [← reaches.total]
        omega
      · rw [reaches.requests, requests, List.range'_1_concat, List.map_append, List.append_assoc,
          Nat.add_comm 1 made]
        rfl

end Reaches

/-- A search that sends a request has parameters. -/
theorem reads_params_of_sent (sent : made < ((e.execute r).run supply {}).requests.length) :
    Reads r.params := by
  by_contra unwritten
  obtain ⟨fault, fails⟩ := exists_error_of_not_reads unwritten
  rw [execute_of_unwritten e fails] at sent
  exact absurd sent (Nat.not_lt_zero made)

/-- A search has come to every attempt whose request it sends. -/
theorem exists_reaches (accepted : e.policy.fault? = none)
    (sent : made < ((e.execute r).run supply {}).requests.length) :
    ∃ left s, Reaches e r supply made left s := by
  induction made with
  | zero => exact exists_reaches_zero supply accepted (reads_params_of_sent sent)
  | succ made ih =>
      obtain ⟨left, s, reaches⟩ := ih (Nat.lt_of_succ_lt sent)
      exact reaches.next sent

/-- A search sends the requests of its first attempts. -/
theorem requests_execute (r : Request) (supply : Supply) (accepted : e.policy.fault? = none) :
    ((e.execute r).run supply {}).requests =
      (List.range' 1 ((e.execute r).run supply {}).requests.length).map (e.requestOf r) := by
  cases count : ((e.execute r).run supply {}).requests.length with
  | zero => exact List.length_eq_zero_iff.mp count
  | succ made =>
      have sent : made < ((e.execute r).run supply {}).requests.length := by omega
      obtain ⟨left, s, reaches⟩ := exists_reaches accepted sent
      have length := reaches.length_requests
      rw [reaches.requests, List.range'_1_concat, List.map_append, Nat.add_comm 1 made]
      cases reaches.attempt sent with
      | ends _ requests _ => rw [requests]; rfl
      | overflows _ _ requests => rw [requests]; rfl
      | goesOn _ _ _ s' _ requests _ =>
          -- The loop goes on, but ends before the request of another attempt.
          rw [requests, List.length_cons] at length
          have none_more : (e.loopRun r supply (made + 1) left s').requests = [] :=
            List.length_eq_zero_iff.mp (by omega)
          rw [requests, none_more]
          rfl

/-- A search sends no more requests than the policy allows attempts. -/
theorem length_requests_le (accepted : e.policy.fault? = none) :
    (((e.execute r).run supply {}).requests.length : Int) ≤ e.policy.maxAttempts := by
  cases count : ((e.execute r).run supply {}).requests.length with
  | zero => exact Int.le_of_lt (RetryPolicy.maxAttempts_pos accepted)
  | succ made =>
      have sent : made < ((e.execute r).run supply {}).requests.length := by omega
      obtain ⟨left, s, reaches⟩ := exists_reaches accepted sent
      have total := reaches.total
      omega

/-- A search sends a request, unless it has no parameters or its first time limit is no double. -/
theorem length_requests_pos (accepted : e.policy.fault? = none) (written : Reads r.params)
    {x : Float} (timeout : (e.policy.timeoutFor 1).toFloat = .ok x) :
    0 < ((e.execute r).run supply {}).requests.length := by
  obtain ⟨left, s, reaches⟩ := exists_reaches_zero supply accepted written
  have first := attempt_of_timeout r supply reaches.count reaches.total timeout
  rw [reaches.length_requests, Nat.zero_add]
  cases first with
  | ends _ requests _ => rw [requests]; exact Nat.one_pos
  | overflows _ _ requests => rw [requests]; exact Nat.one_pos
  | goesOn _ _ _ _ _ requests _ => rw [requests]; exact Nat.succ_pos _

/-- A search ends with an attempt that it makes and that calls for no other. -/
theorem result_of_sent (accepted : e.policy.fault? = none)
    (sent : made < ((e.execute r).run supply {}).requests.length)
    (final : callsForAnother (e.outcome r supply (made + 1)) = false) :
    ((e.execute r).run supply {}).result = e.verdict r supply (made + 1) := by
  obtain ⟨left, s, reaches⟩ := exists_reaches accepted sent
  cases reaches.attempt sent with
  | ends _ _ result => exact reaches.result.trans result
  | overflows calls _ _ => rw [final] at calls; contradiction
  | goesOn calls _ _ _ _ _ _ => rw [final] at calls; contradiction

/-- An attempt is followed by another one exactly if its outcome calls for one, the policy allows
one, and the wait and the time limit of the next one are doubles. -/
theorem succ_lt_length_requests_iff (accepted : e.policy.fault? = none)
    (sent : made < ((e.execute r).run supply {}).requests.length) :
    made + 1 < ((e.execute r).run supply {}).requests.length ↔
      callsForAnother (e.outcome r supply (made + 1)) = true ∧
        ((made + 1 : Nat) : Int) < e.policy.maxAttempts ∧
        (∃ d, e.policy.delayBeforeRetry (made + 1 : Nat) (supply.draws made) = .ok d) ∧
        ∃ x, (e.policy.timeoutFor (made + 2 : Nat)).toFloat = .ok x := by
  obtain ⟨left, s, reaches⟩ := exists_reaches accepted sent
  have length := reaches.length_requests
  have total := reaches.total
  cases reaches.attempt sent with
  | ends final requests _ =>
      rw [requests] at length
      refine iff_of_false (by rw [length]; exact Nat.lt_irrefl _) ?_
      rintro ⟨calls, allowed, -⟩
      have none_left := final calls
      omega
  | overflows _ wait requests =>
      rw [requests] at length
      refine iff_of_false (by rw [length]; exact Nat.lt_irrefl _) ?_
      rintro ⟨-, -, ⟨d, double⟩, -⟩
      rw [wait] at double
      contradiction
  | goesOn calls allowed wait s' count requests _ =>
      obtain ⟨left, rfl⟩ := Nat.exists_eq_succ_of_ne_zero (Nat.ne_of_gt allowed)
      rw [requests, List.length_cons] at length
      have more : ((made + 1 : Nat) : Int) < e.policy.maxAttempts := by omega
      cases timeout : (e.policy.timeoutFor (made + 2 : Nat)).toFloat with
      | ok x =>
          rw [show made + 2 = s'.attempt + 1 by rw [count]] at timeout
          rw [e.loopRun_succ r supply (made + 1) left timeout, Trace.requests_after_request,
            List.length_cons] at length
          exact iff_of_true (by omega) ⟨calls, more, ⟨_, wait⟩, x, rfl⟩
      | error o =>
          rw [show made + 2 = s'.attempt + 1 by rw [count]] at timeout
          rw [requests_of_overflow timeout] at length
          refine iff_of_false (by rw [length]; exact Nat.lt_irrefl _) ?_
          rintro ⟨-, -, -, x, absurd⟩
          contradiction

end Engine

end Bazaar
