import Bazaar.Platform.Usual
import Bazaar.Proofs.Entries
import Bazaar.Proofs.Filter.Compile
import Bazaar.Proofs.Service.Plan
import Bazaar.Service.Basic
import Mathlib.Algebra.Ring.Int.Defs
import Mathlib.Data.List.Forall2

/-!
# Searches over several indices

A search over several indices sends one request for each and always gives an answer.  What becomes
of a request shows in the entry of its own index and nowhere else, and so it is with the totals of
the overview.
-/

namespace Bazaar.Service

variable [Platform]

/-! ## What is asked -/

/-- What a search over several indices looks at: the given options, or else the usual page size for
every configured index, each index once. -/
def fanOut (s : Service) (perIndex : Option IndexOptions) : IndexOptions :=
  match perIndex with
  | some options => options
  | none =>
    s.fanOutIndices.eraseDups.map fun index =>
      (index, some { hitsPerPage := some s.fanOutHitsPerPage })

omit [Platform] in
theorem fanOut_eq (s : Service) (perIndex : Option IndexOptions) :
    perIndex.getD (s.fanOutOptions s.fanOutHitsPerPage) = s.fanOut perIndex := by
  cases perIndex with
  | some options => rfl
  | none => exact Entries.ofPairs_const _ s.fanOutIndices

/-- Whether the filters of all given options can be written. -/
def Compiles (perIndex : Option IndexOptions) : Prop :=
  ∀ options, perIndex = some options → ∀ entry ∈ options,
    ∃ text, Filter.compile (entry.2.getD {}).filters = .ok text

/-- A request asks for a term in an index with its options. -/
structure Asks (s : Service) (term : String) (entry : String × Option SearchOptions)
    (r : Request) : Prop where
  index : r.index = entry.1
  term : r.term = Text.trim term
  filters : Filter.compile (entry.2.getD {}).filters = .ok r.filters
  page : r.page = (entry.2.getD {}).page
  hitsPerPage : r.hitsPerPage = (entry.2.getD {}).hitsPerPage.getD s.hitsPerPage
  attributes : r.attributes = (entry.2.getD {}).attributes
  sortBy : r.sortBy = (entry.2.getD {}).sortBy

theorem exists_asks (s : Service) (term : String) {entry : String × Option SearchOptions}
    {text : String} (compiled : Filter.compile (entry.2.getD {}).filters = .ok text) :
    ∃ r, s.request entry.1 term entry.2 = .ok r ∧ s.Asks term entry r := by
  have built : s.request entry.1 term entry.2 = .ok
      { index := entry.1
        term := Text.trim term
        filters := text
        page := (entry.2.getD {}).page
        hitsPerPage := (entry.2.getD {}).hitsPerPage.getD s.hitsPerPage
        attributes := (entry.2.getD {}).attributes
        sortBy := (entry.2.getD {}).sortBy } := by
    rw [request, Request.build, compiled]
    rfl
  exact ⟨_, built, rfl, rfl, compiled, rfl, rfl, rfl, rfl⟩

/-- The requests of options whose filters can be written, one for each index in order. -/
theorem exists_requests (s : Service) (term : String) {options : IndexOptions}
    (compile : ∀ entry ∈ options, ∃ text, Filter.compile (entry.2.getD {}).filters = .ok text) :
    ∃ requests : List Request,
      options.map (fun (index, o) => s.request index term o) = requests.map .ok ∧
      List.Forall₂ (s.Asks term) options requests := by
  induction options with
  | nil => exact ⟨[], rfl, .nil⟩
  | cons entry options ih =>
      obtain ⟨⟨text, compiled⟩, others⟩ := List.forall_mem_cons.mp compile
      obtain ⟨r, built, asks⟩ := s.exists_asks term compiled
      obtain ⟨requests, same, all⟩ := ih others
      refine ⟨r :: requests, ?_, .cons asks all⟩
      rw [List.map_cons, List.map_cons, same]
      exact congrArg (· :: _) built

theorem compile_fanOut {s : Service} {perIndex : Option IndexOptions}
    (compiles : Compiles perIndex) :
    ∀ entry ∈ s.fanOut perIndex,
      ∃ text, Filter.compile (entry.2.getD {}).filters = .ok text := by
  cases perIndex with
  | some options => exact compiles options rfl
  | none =>
      intro entry member
      obtain ⟨index, -, rfl⟩ := List.mem_map.mp member
      exact ⟨"", rfl⟩

/-! ## What is answered -/

/-- The answer to requests for some indices: under every index stands what became of its own
request, and the summary is the one of these entries. -/
structure Isolates (b : Backend) (supplies : Nat → Supply) (names : List String)
    (requests : List Request) (a : Aggregate) : Prop where
  names : a.names = names
  entries : ∀ i : Nat, (a[i]?).map (·.2) =
    (requests[i]?).map fun r => r.settled (b.outcome (supplies i) r)
  failed : a.failed = a.filterMap fun (name, result) => result.failure.map fun _ => name
  totalHits : a.totalHits = (a.map fun (_, result) => result.totalHits).sum

omit [Platform] in
theorem failed_eq (a : Aggregate) :
    a.failed = a.filterMap fun (name, result) => result.failure.map fun _ => name := by
  unfold Aggregate.failed
  induction a with
  | nil => rfl
  | cons entry a ih =>
      obtain ⟨name, result⟩ := entry
      cases failure : result.failure with
      | none => simpa [SearchResult.degraded, failure] using ih
      | some f => simpa [SearchResult.degraded, failure] using ih

omit [Platform] in
theorem totalHits_eq (a : Aggregate) :
    a.totalHits = (a.map fun (_, result) => result.totalHits).sum := by
  rw [Aggregate.totalHits, List.sum_eq_foldl, List.foldl_map]

omit [Platform] in
theorem isolates_zip (b : Backend) (supplies : Nat → Supply) {names : List String}
    {requests : List Request} (paired : names.length = requests.length) :
    Isolates b supplies names requests (names.zip (b.results supplies requests)) where
  names := List.map_fst_zip (by simp [Backend.results, paired])
  entries i := by
    have unpaired : (names.zip (b.results supplies requests)).map (·.2) =
        b.results supplies requests := List.map_snd_zip (by simp [Backend.results, paired])
    rw [← List.getElem?_map, unpaired, Backend.results, List.getElem?_mapIdx]
  failed := failed_eq _
  totalHits := totalHits_eq _

omit [Platform] in
/-- An entry depends on nothing but what became of its own request. -/
theorem Isolates.getElem?_congr {b b' : Backend} {supplies supplies' : Nat → Supply}
    {names : List String} {requests : List Request} {a a' : Aggregate} {i : Nat}
    (first : Isolates b supplies names requests a)
    (second : Isolates b' supplies' names requests a')
    (same : ∀ r, requests[i]? = some r →
      b.outcome (supplies i) r = b'.outcome (supplies' i) r) : a[i]? = a'[i]? := by
  have one_name : (a[i]?).map (·.1) = (a'[i]?).map (·.1) := by
    rw [← List.getElem?_map, ← List.getElem?_map]
    exact congrArg (·[i]?) (first.names.trans second.names.symm)
  have one_result : (a[i]?).map (·.2) = (a'[i]?).map (·.2) := by
    rw [first.entries, second.entries]
    apply Option.map_congr
    intro r found
    rw [same r found]
  cases entry : a[i]? with
  | none =>
      rw [entry] at one_name
      exact (Option.map_eq_none_iff.mp one_name.symm).symm
  | some x =>
      rw [entry] at one_name one_result
      obtain ⟨y, there, equal⟩ := Option.map_eq_some_iff.mp one_name.symm
      rw [there] at one_result ⊢
      exact congrArg some (Prod.ext equal.symm (Option.some.inj one_result))

theorem yields_searchAll (s : Service) (term : String) {perIndex : Option IndexOptions}
    {requests : List Request}
    (built : (s.fanOut perIndex).map (fun (index, o) => s.request index term o) =
      requests.map .ok) (b : Backend) (supplies : Nat → Supply) :
    (s.searchAll term perIndex).Yields b supplies
      ((s.fanOut perIndex).names.zip (b.results supplies requests)) := by
  simp only [searchAll, fanOut_eq, built]
  exact Plan.yields_together [] requests _

/-! ## The overview -/

/-- A request that only counts. -/
def countRequest (index filters : String) : Request where
  index := index
  filters := filters
  hitsPerPage := 0

/-- What a request counts; nothing if its backend raises. -/
def counted (b : Backend) (supply : Supply) (r : Request) : Int :=
  match b.outcome supply r with
  | .ok result => result.totalHits
  | .error _ => 0

omit [Platform] in
theorem totalHits_settled (b : Backend) (supply : Supply) (r : Request) :
    (r.settled (b.outcome supply r)).totalHits = counted b supply r := by
  unfold counted
  rcases b.outcome supply r with (f | f | o) | result <;> rfl

/-- The requests behind the totals of the overview. -/
def countRequests : List Request :=
  [countRequest "shops" "", countRequest "shops" "status:\"active\"",
   countRequest "products" "", countRequest "products" "status:\"active\"",
   countRequest "shop_products" "", countRequest "shop_products" "status:\"active\""]

/-- A search that only counts asks for no hits, of the active records or of all. -/
theorem request_countOptions (s : Service) (index : String) (active : Bool) :
    s.request index "" (some (countOptions active)) =
      .ok (countRequest index (if active then "status:\"active\"" else "")) := by
  cases active with
  | false => rfl
  | true =>
      have compiled : Filter.compile (countOptions true).filters = .ok "status:\"active\"" :=
        Filter.compile_text "status" "active"
      rw [request, Request.build, Option.getD_some, compiled]
      rfl

theorem requests_dashboardCounts (s : Service) :
    s.dashboardCounts.requests = countRequests.map .ok := by
  simp only [dashboardCounts, Plan.requests, request_countOptions]
  rfl

theorem yields_dashboardCounts (s : Service) (b : Backend) (supplies : Nat → Supply) :
    s.dashboardCounts.Yields b supplies
      { totalShops := counted b (supplies 0) (countRequest "shops" "")
        activeShops := counted b (supplies 1) (countRequest "shops" "status:\"active\"")
        totalProducts := counted b (supplies 2) (countRequest "products" "")
        activeProducts := counted b (supplies 3) (countRequest "products" "status:\"active\"")
        totalShopProducts := counted b (supplies 4) (countRequest "shop_products" "")
        activeShopProducts :=
          counted b (supplies 5) (countRequest "shop_products" "status:\"active\"") } := by
  simp only [← totalHits_settled, dashboardCounts, request_countOptions]
  exact Plan.yields_together _ countRequests _

/-! ## Isolation -/

/-- A search over several indices answers whatever its backend does, and each request shows in its
own entry only; so it is with the totals of the overview. -/
theorem fanOut_isolates (s : Service) (term : String) {perIndex : Option IndexOptions}
    (compiles : Compiles perIndex) :
    (∃ requests : List Request,
      List.Forall₂ (s.Asks term) (s.fanOut perIndex) requests ∧
      (s.searchAll term perIndex).requests = requests.map .ok ∧
      (∀ b supplies, ∃ a : Aggregate, (s.searchAll term perIndex).Yields b supplies a ∧
        Isolates b supplies (s.fanOut perIndex).names requests a) ∧
      ∀ (b b' : Backend) (supplies supplies' : Nat → Supply) (a a' : Aggregate),
        (s.searchAll term perIndex).Yields b supplies a →
        (s.searchAll term perIndex).Yields b' supplies' a' →
        ∀ i : Nat, (∀ r, requests[i]? = some r →
          b.outcome (supplies i) r = b'.outcome (supplies' i) r) → a[i]? = a'[i]?) ∧
    s.dashboardCounts.requests = countRequests.map .ok ∧
    ∀ b supplies, s.dashboardCounts.Yields b supplies
      { totalShops := counted b (supplies 0) (countRequest "shops" "")
        activeShops := counted b (supplies 1) (countRequest "shops" "status:\"active\"")
        totalProducts := counted b (supplies 2) (countRequest "products" "")
        activeProducts := counted b (supplies 3) (countRequest "products" "status:\"active\"")
        totalShopProducts := counted b (supplies 4) (countRequest "shop_products" "")
        activeShopProducts :=
          counted b (supplies 5) (countRequest "shop_products" "status:\"active\"") } := by
  refine ⟨?_, s.requests_dashboardCounts, s.yields_dashboardCounts⟩
  obtain ⟨requests, built, asks⟩ := s.exists_requests term (compile_fanOut compiles)
  have paired : (s.fanOut perIndex).names.length = requests.length := by
    rw [Entries.names, List.length_map]
    exact asks.length_eq
  have answers (b : Backend) (supplies : Nat → Supply) :
      ∃ a : Aggregate, (s.searchAll term perIndex).Yields b supplies a ∧
        Isolates b supplies (s.fanOut perIndex).names requests a :=
    ⟨_, s.yields_searchAll term built b supplies, isolates_zip b supplies paired⟩
  refine ⟨requests, asks, ?_, answers, ?_⟩
  · simp only [searchAll, fanOut_eq, built]
    rfl
  · intro b b' supplies supplies' a a' given given' i same
    obtain ⟨own, yields, isolates⟩ := answers b supplies
    obtain ⟨own', yields', isolates'⟩ := answers b' supplies'
    rw [given.unique yields, given'.unique yields']
    exact isolates.getElem?_congr isolates' same

omit [Platform] in
theorem fanOut_isolates_of_filtered_index :
    letI := Platform.usual
    Compiles (some [("shops", some { filters := [(.str "status", .str "active")] }),
      ("orders", none)]) ∧
    ∀ b supplies, ∃ a : Aggregate,
      (searchAll {} "socks" (some [("shops", some { filters := [(.str "status", .str "active")] }),
        ("orders", none)])).Yields b supplies a ∧ a.names = ["shops", "orders"] := by
  let _ := Platform.usual
  have compiles : Compiles (some [("shops", some { filters := [(.str "status", .str "active")] }),
      ("orders", none)]) := by
    rintro options ⟨⟩ entry member
    rcases List.mem_pair.mp member with rfl | rfl
    · exact ⟨_, Filter.compile_text "status" "active"⟩
    · exact ⟨"", rfl⟩
  refine ⟨compiles, fun b supplies => ?_⟩
  obtain ⟨⟨requests, -, -, answers, -⟩, -⟩ := fanOut_isolates {} "socks" compiles
  obtain ⟨a, yields, isolates⟩ := answers b supplies
  exact ⟨a, yields, isolates.names⟩

end Bazaar.Service
