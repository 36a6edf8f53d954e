import Bazaar.Failure.Fault
import Mathlib.Data.List.Perm.Subperm
import Mathlib.Logic.Relation

/-!
# Walks through faults

A walk through the faults behind a fault ends, also where faults refer to each other in a circle.
It finds a resolver failure exactly if one is reached by going from each fault to its cause, or to
its context where there is no cause.
-/

namespace Bazaar

namespace FaultGraph

variable (graph : FaultGraph)

/-- One fault leads to another: to its cause, or to its context if it has no cause. -/
def Leads (place behind : Nat) : Prop :=
  ∃ node, graph[place]? = some node ∧
    (node.cause = some behind ∨ node.cause = none ∧ node.context = some behind)

/-- There is a resolver failure at a place. -/
def IsResolverAt (place : Nat) : Prop :=
  ∃ node, graph[place]? = some node ∧ node.isResolver = true

/-- A resolver failure is among the faults that a fault leads to, itself included. -/
def ReachesResolver (place : Nat) : Prop :=
  ∃ reached, Relation.ReflTransGen graph.Leads place reached ∧ graph.IsResolverAt reached

end FaultGraph

theorem FaultNode.next?_eq_some_iff {node : FaultNode} {behind : Nat} :
    node.next? = some behind ↔
      node.cause = some behind ∨ node.cause = none ∧ node.context = some behind := by
  rw [next?]
  cases node.cause <;> simp

namespace FaultWalk

variable {graph : FaultGraph} {start : Nat} {w : FaultWalk}

/-! ## One round -/

/-- A walk has nothing left to see: it comes to no fault, or to one that it has seen. -/
def Spent (graph : FaultGraph) (w : FaultWalk) : Prop :=
  ∀ place, w.current = some place → place ∈ w.seen ∨ graph[place]? = none

/-- A round of a spent walk finds nothing; any other comes to a fault, which is a resolver failure
or is walked past. -/
theorem round_cases (graph : FaultGraph) (w : FaultWalk) :
    (w.round graph = .inr false ∧ Spent graph w) ∨
    ∃ place node, w.current = some place ∧ place ∉ w.seen ∧ graph[place]? = some node ∧
      (node.isResolver = true ∧ w.round graph = .inr true ∨
        node.isResolver = false ∧ w.round graph = .inl ⟨place :: w.seen, node.next?⟩) := by
  obtain ⟨seen, current⟩ := w
  cases current with
  | none => exact .inl ⟨rfl, by rintro place ⟨⟩⟩
  | some place =>
      by_cases again : place ∈ seen
      · refine .inl ⟨by simp [round, again], ?_⟩
        rintro _ ⟨⟩
        exact .inl again
      · cases there : graph[place]? with
        | none =>
            refine .inl ⟨by simp [round, there], ?_⟩
            rintro _ ⟨⟩
            exact .inr there
        | some node =>
            refine .inr ⟨place, node, rfl, again, there, ?_⟩
            cases resolver : node.isResolver with
            | true => exact .inl ⟨rfl, by simp [round, again, there, resolver]⟩
            | false => exact .inr ⟨rfl, by simp [round, again, there, resolver]⟩

/-- What is known of a walk from a place: it has seen faults that are no resolver failures, each
once, and whatever they lead to has been seen or comes next. -/
structure Explores (graph : FaultGraph) (start : Nat) (w : FaultWalk) : Prop where
  nodup : w.seen.Nodup
  seen : ∀ place ∈ w.seen, ∃ node, graph[place]? = some node ∧ node.isResolver = false
  begun : start ∈ w.seen ∨ w.current = some start
  behind : ∀ place ∈ w.seen, ∀ next, graph.Leads place next →
    next ∈ w.seen ∨ w.current = some next
  reached : ∀ place, w.current = some place → Relation.ReflTransGen graph.Leads start place

theorem explores_start (graph : FaultGraph) (start : Nat) :
    Explores graph start { current := some start } where
  nodup := List.nodup_nil
  seen := by simp
  begun := .inr rfl
  behind := by simp
  reached := by
    rintro _ ⟨⟩
    exact .refl

/-- A walk that goes on behind a fault knows as much as before, of one fault more. -/
theorem Explores.next {place : Nat} {node : FaultNode} (explores : Explores graph start w)
    (comes : w.current = some place) (isNew : place ∉ w.seen) (there : graph[place]? = some node)
    (other : node.isResolver = false) : Explores graph start ⟨place :: w.seen, node.next?⟩ where
  nodup := List.nodup_cons.mpr ⟨isNew, explores.nodup⟩
  seen := List.forall_mem_cons.mpr ⟨⟨node, there, other⟩, explores.seen⟩
  begun := by
    rcases explores.begun with before | now
    · exact .inl (List.mem_cons_of_mem place before)
    · obtain rfl := Option.some.inj (comes.symm.trans now)
      exact .inl List.mem_cons_self
  behind := by
    refine List.forall_mem_cons.mpr ⟨?_, ?_⟩
    · rintro next ⟨node', there', leads⟩
      obtain rfl := Option.some.inj (there.symm.trans there')
      exact .inr (FaultNode.next?_eq_some_iff.mpr leads)
    · intro earlier member next leads
      rcases explores.behind earlier member next leads with before | now
      · exact .inl (List.mem_cons_of_mem place before)
      · obtain rfl := Option.some.inj (comes.symm.trans now)
        exact .inl List.mem_cons_self
  reached := by
    intro next goes
    exact (explores.reached place comes).tail
      ⟨node, there, FaultNode.next?_eq_some_iff.mp goes⟩

theorem Spent.mem_seen {place : Nat} {node : FaultNode} (spent : Spent graph w)
    (there : graph[place]? = some node) (known : place ∈ w.seen ∨ w.current = some place) :
    place ∈ w.seen := by
  rcases known with before | comes
  · exact before
  · refine (spent place comes).resolve_right ?_
    rw [there]
    exact Option.some_ne_none node

/-- All that the start of a spent walk leads to has been seen, or is no fault at all. -/
theorem Explores.known_of_spent (explores : Explores graph start w) (spent : Spent graph w)
    {reached : Nat} (path : Relation.ReflTransGen graph.Leads start reached) :
    reached ∈ w.seen ∨ w.current = some reached := by
  induction path with
  | refl => exact explores.begun
  | @tail place next _ leads ih =>
      have seen : place ∈ w.seen := by
        obtain ⟨node, there, -⟩ := leads
        exact spent.mem_seen there ih
      exact explores.behind place seen next leads

theorem Explores.not_reachesResolver (explores : Explores graph start w)
    (spent : Spent graph w) : ¬graph.ReachesResolver start := by
  rintro ⟨reached, path, node, there, resolver⟩
  have seen := spent.mem_seen there (explores.known_of_spent spent path)
  obtain ⟨node', there', other⟩ := explores.seen reached seen
  obtain rfl := Option.some.inj (there.symm.trans there')
  rw [other] at resolver
  cases resolver

/-! ## Whole walks -/

/-- No walk sees more faults than there are. -/
theorem Explores.length_seen_le (explores : Explores graph start w) :
    w.seen.length ≤ graph.length := by
  have within : w.seen ⊆ List.range graph.length := by
    intro place member
    obtain ⟨node, there, -⟩ := explores.seen place member
    exact List.mem_range.mpr (List.getElem?_eq_some_iff.mp there).1
  simpa using (List.subperm_of_subset explores.nodup within).length_le

/-- A walk ends within as many rounds as there are faults that it has not seen, and one more. -/
theorem Explores.exists_answer? (explores : Explores graph start w) {rounds : Nat}
    (enough : graph.length < rounds + w.seen.length) :
    ∃ found, answer? graph rounds w = some found ∧
      (found = true ↔ graph.ReachesResolver start) := by
  induction rounds generalizing w with
  | zero =>
      have most := explores.length_seen_le
      omega
  | succ rounds ih =>
      rcases round_cases graph w with ⟨ends, spent⟩ | ⟨place, node, comes, isNew, there, either⟩
      · refine ⟨false, by rw [answer?, ends], ?_⟩
        exact iff_of_false Bool.false_ne_true (explores.not_reachesResolver spent)
      · rcases either with ⟨resolver, ends⟩ | ⟨other, goes⟩
        · refine ⟨true, by rw [answer?, ends], ?_⟩
          exact iff_of_true rfl ⟨place, explores.reached place comes, node, there, resolver⟩
        · rw [answer?, goes]
          apply ih (explores.next comes isNew there other)
          rw [List.length_cons]
          omega

end FaultWalk

/-! ## Classification -/

theorem Fault.kind_classify_of_connect (f : Fault) (connects : f.kind = .connect) :
    f.classify.kind = if f.graph.resolverBehind 0 then .dns else .connection := by
  simp [classify, failureKind, connects, FaultClass.isTimeout]

namespace FaultGraph

/-- A resolver failure is found exactly if one is reached. -/
theorem resolverBehind_iff (graph : FaultGraph) (place : Nat) :
    graph.resolverBehind place = true ↔ graph.ReachesResolver place := by
  have enough : graph.length < graph.length + 1 + List.length ([] : List Nat) := by simp
  obtain ⟨found, ends, exact⟩ := (FaultWalk.explores_start graph place).exists_answer? enough
  rw [resolverBehind, ends]
  exact exact

/-- A walk ends, whatever the faults refer to, and it finds a resolver failure exactly if the fault
at its start leads to one.  A connection that failed is put down to the resolver in just that
case. -/
theorem walk_ends_exactly (graph : FaultGraph) (place : Nat) :
    (∀ rounds, graph.length < rounds →
      FaultWalk.answer? graph rounds { current := some place } =
        some (graph.resolverBehind place)) ∧
    (graph.resolverBehind place = true ↔ graph.ReachesResolver place) ∧
    ∀ f : Fault, f.kind = .connect →
      (f.classify.kind = .dns ↔ f.graph.ReachesResolver 0) ∧
      (f.classify.kind = .connection ↔ ¬f.graph.ReachesResolver 0) := by
  refine ⟨fun rounds enough => ?_, graph.resolverBehind_iff place, fun f connects => ?_⟩
  · obtain ⟨found, ends, exact⟩ := (FaultWalk.explores_start graph place).exists_answer? enough
    rw [ends, Option.some.injEq, Bool.eq_iff_iff, exact, graph.resolverBehind_iff place]
  · rw [← f.graph.resolverBehind_iff 0, f.kind_classify_of_connect connects]
    cases f.graph.resolverBehind 0 <;> simp

/-- Two faults that name each other, without a resolver failure and with one. -/
theorem walk_ends_exactly_on_circles :
    let circle : FaultGraph := [⟨false, some 1, none⟩, ⟨false, none, some 0⟩]
    let unresolved : FaultGraph := [⟨false, some 1, none⟩, ⟨true, none, some 0⟩]
    let refusal : Fault := ⟨.connect, "refused", circle⟩
    let missing : Fault := ⟨.connect, "no such host", unresolved⟩
    (∀ rounds, 2 < rounds →
      FaultWalk.answer? circle rounds { current := some 0 } = some false) ∧
    refusal.kind = .connect ∧ refusal.classify.kind = .connection ∧ ¬circle.ReachesResolver 0 ∧
    missing.kind = .connect ∧ missing.classify.kind = .dns ∧ unresolved.ReachesResolver 0 := by
  intro circle unresolved refusal missing
  obtain ⟨ends, -, classified⟩ := walk_ends_exactly circle 0
  exact ⟨ends, rfl, rfl, (classified refusal rfl).2.mp rfl, rfl, rfl,
    (classified missing rfl).1.mp rfl⟩

end FaultGraph

end Bazaar
