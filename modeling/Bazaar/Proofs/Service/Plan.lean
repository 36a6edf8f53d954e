import Bazaar.Proofs.Turns
import Bazaar.Service.Plan

/-!
# Plans carried out

The requests of a plan run at once and take turns in any order.  The caller learns the answer once
all of them have ended; a backend that raises gives an empty result for its own request and
disturbs no other.
-/

namespace Bazaar

/-! ## What becomes of a request -/

namespace Request

/-- The empty result of a request that failed. -/
def empty (r : Request) (f : Failure) : SearchResult where
  index := r.index
  query := r.term
  page := r.page
  hitsPerPage := r.hitsPerPage
  failure := some f

/-- The result of a request by what its backend did.  Whatever it raises that is no failure yet is
one of the transport. -/
def settled (r : Request) : Except Raised SearchResult → SearchResult
  | .ok result => result
  | .error (.failure f) => r.empty f
  | .error raised => r.empty ⟨.transport, raised.shown, none⟩

end Request

namespace Backend

variable (b : Backend)

/-- What the backend does with a request on a supply. -/
def outcome (supply : Supply) (r : Request) : Except Raised SearchResult :=
  ((b.execute r).run supply {}).result

/-- The results of requests that run at once, each on its own supply. -/
def results (supplies : Nat → Supply) (requests : List Request) : List SearchResult :=
  requests.mapIdx fun i r => r.settled (b.outcome (supplies i) r)

/-- A guarded request ends with a result, whatever the backend does. -/
theorem outcome_run (supply : Supply) (r : Request) :
    Part.outcome supply ⟨b.run (.ok r), {}⟩ = .ok (r.settled (b.outcome supply r)) := by
  have guarded : ((b.guarded r).run supply {}).result = r.settled (b.outcome supply r) := by
    apply Task.result_bind
    intro outcome used
    cases outcome with
    | ok result => rfl
    | error raised => cases raised <;> rfl
  rw [← guarded]
  apply Task.result_bind
  intro result used
  rfl

theorem outcomes_run (supplies : Nat → Supply) (requests : List Request) :
    Parts.outcomes supplies (requests.map fun r => ⟨b.run (.ok r), {}⟩) =
      (b.results supplies requests).map .ok := by
  apply List.ext_getElem?
  intro i
  simp [Parts.outcomes, results, List.getElem?_mapIdx, Function.comp_def, outcome_run]

end Backend

/-! ## What a caller learns -/

namespace Plan

/-- What the caller of a plan learns from parts that take turns in an order; nothing if the order is
too short.  Checks are waited for whether they raise or not. -/
def await (b : Backend) (supplies : Nat → Supply) (order : List Nat) :
    Plan α → Option (Except Raised α)
  | .answer a => some (.ok a)
  | .alone request finish =>
    let part := (Part.turn (supplies 0))^[order.count 0] ⟨b.run request, {}⟩
    part.result?.map (·.map finish)
  | .together _ requests finish =>
    (Parts.gather supplies order (requests.map fun r => ⟨b.run r, {}⟩)).map
      (·.map fun results => (finish results).2)
  | .checks indices finish =>
    (Parts.gather supplies order
      (indices.map fun index => ⟨(b.isReachable index).map .ok, {}⟩)).map
        (·.map fun outcomes => (finish outcomes).2)

/-- A plan gives an answer: it gives no other, and it gives it in every order that is long
enough. -/
structure Yields (b : Backend) (supplies : Nat → Supply) (plan : Plan α) (a : α) : Prop where
  only : ∀ {order : List Nat} {learned : Except Raised α},
    plan.await b supplies order = some learned → learned = .ok a
  ends : ∃ enough : List Nat, ∀ order : List Nat, (∀ i, enough.count i ≤ order.count i) →
    plan.await b supplies order = some (.ok a)

variable {b : Backend} {supplies : Nat → Supply}

/-- The order of the turns does not decide what a plan gives. -/
theorem Yields.unique {plan : Plan α} {a a' : α} (first : plan.Yields b supplies a)
    (second : plan.Yields b supplies a') : a = a' := by
  obtain ⟨enough, ends⟩ := first.ends
  have same := second.only (ends enough fun _ => Nat.le_refl _)
  exact Except.ok.inj same

theorem yields_answer (a : α) : (answer a).Yields b supplies a where
  only learned := (Option.some.inj learned).symm
  ends := ⟨[], fun _ _ => rfl⟩

/-- A plan with its answer changed is waited for as the plan itself. -/
theorem await_map (f : α → β) (plan : Plan α) (b : Backend) (supplies : Nat → Supply)
    (order : List Nat) :
    (plan.map f).await b supplies order = (plan.await b supplies order).map (·.map f) := by
  cases plan with
  | answer a => rfl
  | alone request finish =>
      simp only [map, await, Option.map_map]
      congr 1
      funext learned
      cases learned <;> rfl
  | together before requests finish =>
      simp only [map, await, Option.map_map]
      congr 1
      funext learned
      cases learned <;> rfl
  | checks indices finish =>
      simp only [map, await, Option.map_map]
      congr 1
      funext learned
      cases learned <;> rfl

theorem Yields.map {plan : Plan α} {a : α} (yields : plan.Yields b supplies a) (f : α → β) :
    (plan.map f).Yields b supplies (f a) where
  only waited := by
    rw [await_map] at waited
    obtain ⟨learned, first, rfl⟩ := Option.map_eq_some_iff.mp waited
    rw [yields.only first]
    rfl
  ends := by
    obtain ⟨enough, ends⟩ := yields.ends
    refine ⟨enough, fun order longer => ?_⟩
    rw [await_map, ends order longer]
    rfl

@[simp]
theorem requests_map (f : α → β) (plan : Plan α) : (plan.map f).requests = plan.requests := by
  cases plan <;> rfl

/-- A request alone gives what is made of its result. -/
theorem yields_alone (r : Request) (finish : SearchResult → α) :
    (alone (.ok r) finish).Yields b supplies (finish (r.settled (b.outcome (supplies 0) r))) := by
  let part : Part (Except Raised SearchResult) := ⟨b.run (.ok r), {}⟩
  constructor
  · intro order learned waited
    obtain ⟨outcome, ended, rfl⟩ := Option.map_eq_some_iff.mp waited
    have same := Part.outcome_of_result? ended (supplies 0)
    rw [Part.outcome_turns, Backend.outcome_run] at same
    rw [← same]
    rfl
  · refine ⟨List.replicate (part.turnsLeft (supplies 0)) 0, fun order longer => ?_⟩
    have served := longer 0
    rw [List.count_replicate_self] at served
    have spent : ((Part.turn (supplies 0))^[order.count 0] part).turnsLeft (supplies 0) = 0 := by
      rw [Part.turnsLeft_turns]
      omega
    obtain ⟨outcome, ended⟩ := Option.isSome_iff_exists.mp (Part.isSome_result? spent)
    have same := Part.outcome_of_result? ended (supplies 0)
    rw [Part.outcome_turns, Backend.outcome_run] at same
    show ((Part.turn (supplies 0))^[order.count 0] part).result?.map (·.map finish) = _
    rw [ended, ← same]
    rfl

/-- A plan whose parts all end well gives what is made of what they end with. -/
theorem yields_of_gather {plan : Plan α} {parts : List (Part (Except Raised β))} {as : List β}
    (give : List β → α) (well : Parts.outcomes supplies parts = as.map .ok)
    (awaits : ∀ order, plan.await b supplies order =
      (Parts.gather supplies order parts).map (·.map give)) :
    plan.Yields b supplies (give as) := by
  constructor
  · intro order learned waited
    rw [awaits] at waited
    obtain ⟨outcome, gathered, rfl⟩ := Option.map_eq_some_iff.mp waited
    rw [Parts.eq_ok_of_gather well gathered]
    rfl
  · obtain ⟨enough, ends⟩ := Parts.exists_gather well
    refine ⟨enough, fun order longer => ?_⟩
    rw [awaits, ends order longer]
    rfl

/-- Requests that run at once give what is made of their results. -/
theorem yields_together (before : List LogEntry) (requests : List Request)
    (finish : List SearchResult → List LogEntry × α) :
    (together before (requests.map .ok) finish).Yields b supplies
      (finish (b.results supplies requests)).2 := by
  apply yields_of_gather (fun results => (finish results).2) (b.outcomes_run supplies requests)
  intro order
  rw [await, List.map_map]
  rfl

/-- Checks that run at once give what is made of their outcomes, raised errors among them. -/
theorem yields_checks (indices : List String)
    (finish : List (Except Raised Bool) → List LogEntry × α) :
    (checks indices finish).Yields b supplies
      (finish (indices.mapIdx fun i index =>
        ((b.isReachable index).run (supplies i) {}).result)).2 := by
  have kept (supply : Supply) (index : String) :
      (((b.isReachable index).map (Except.ok : _ → Except Raised _)).run supply {}).result =
        .ok ((b.isReachable index).run supply {}).result := by
    apply Task.result_bind
    intro outcome used
    rfl
  refine yields_of_gather (fun outcomes => (finish outcomes).2) ?_ fun order => rfl
  apply List.ext_getElem?
  intro i
  simp [Parts.outcomes, Part.outcome, List.getElem?_mapIdx, Function.comp_def, kept]

end Plan

end Bazaar
