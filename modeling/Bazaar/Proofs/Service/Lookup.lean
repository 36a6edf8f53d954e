import Bazaar.Platform.Usual
import Bazaar.Proofs.Entries
import Bazaar.Proofs.Filter.Compile
import Bazaar.Proofs.Service.Plan
import Bazaar.Proofs.Text
import Bazaar.Service.Basic

/-!
# Records by identifier

A lookup asks for every identifier that is not blank once, in parts of which only the last may be
short, and keeps of the hits of all parts the first one for each identifier.  A part whose backend
raises only adds nothing.  A lookup of one record is the lookup of one identifier.
-/

namespace Bazaar

namespace Lookup

/-! ## The identifiers -/

/-- A text of blanks only. -/
def Blank (id : String) : Prop :=
  ∀ c ∈ id.toList, Text.isBlank c = true

theorem isEmpty_trim_iff {id : String} : (Text.trim id).isEmpty = true ↔ Blank id := by
  rw [Blank, ← Text.stripChars_eq_nil_iff]
  simp [Text.trim, Text.trimChars]

theorem firstOccurrences_distinctIds (ids : List String) :
    FirstOccurrences (fun id => ¬ Blank id) ids (distinctIds ids) := by
  apply firstOccurrences_eraseDups
  intro id
  rw [Bool.not_eq_true', ← Bool.not_eq_true, isEmpty_trim_iff]

theorem distinctIds_singleton {id : String} (present : ¬Blank id) : distinctIds [id] = [id] := by
  have filled : (Text.trim id).isEmpty = false := by
    rwa [← Bool.not_eq_true, isEmpty_trim_iff]
  have kept : ([id].filter fun id => !(Text.trim id).isEmpty) = [id] := by simp [filled]
  rw [distinctIds, kept]
  rfl

/-! ## The parts -/

/-- A list in parts of a size, none of them empty; only the last may be shorter. -/
structure Cut (size : Nat) (xs : List α) (parts : List (List α)) : Prop where
  flatten : parts.flatten = xs
  ne_nil : ∀ p ∈ parts, p ≠ []
  length_le : ∀ p ∈ parts, p.length ≤ size
  length_eq : ∀ p ∈ parts.dropLast, p.length = size

theorem Cut.eq_nil_iff {size : Nat} {xs : List α} {parts : List (List α)}
    (cut : Cut size xs parts) : parts = [] ↔ xs = [] := by
  constructor
  · rintro rfl
    exact cut.flatten.symm
  · rintro rfl
    refine List.eq_nil_iff_forall_not_mem.mpr fun p member => cut.ne_nil p member ?_
    exact List.flatten_eq_nil_iff.mp cut.flatten p member

theorem Cut.eq_singleton {size : Nat} {x : α} {parts : List (List α)}
    (cut : Cut size [x] parts) : parts = [[x]] := by
  obtain ⟨flatten, ne_nil, -, -⟩ := cut
  cases parts with
  | nil => cases flatten
  | cons p parts =>
      obtain ⟨some_first, others⟩ := List.forall_mem_cons.mp ne_nil
      rw [List.flatten_cons, List.append_eq_singleton_iff] at flatten
      rcases flatten with ⟨none_first, -⟩ | ⟨rfl, none_left⟩
      · exact absurd none_first some_first
      · have no_others : parts = [] := List.eq_nil_iff_forall_not_mem.mpr fun q member =>
          others q member (List.flatten_eq_nil_iff.mp none_left q member)
        rw [no_others]

/-- The first part of a list goes in front of the parts of what is left. -/
theorem Cut.cons {size : Nat} (positive : 0 < size) {xs : List α} (some_left : xs ≠ [])
    {parts : List (List α)} (rest : Cut size (xs.drop size) parts) :
    Cut size xs (xs.take size :: parts) where
  flatten := by rw [List.flatten_cons, rest.flatten, List.take_append_drop]
  ne_nil := by
    refine List.forall_mem_cons.mpr ⟨?_, rest.ne_nil⟩
    simp [some_left, Nat.pos_iff_ne_zero.mp positive]
  length_le := List.forall_mem_cons.mpr ⟨List.length_take_le size xs, rest.length_le⟩
  length_eq := by
    by_cases last : parts = []
    · simp [last]
    · rw [List.dropLast_cons_of_ne_nil last, List.forall_mem_cons]
      refine ⟨?_, rest.length_eq⟩
      -- Something is left behind the first part, so it is full.
      have behind : xs.drop size ≠ [] := fun none => last (rest.eq_nil_iff.mpr none)
      have longer := List.length_pos_iff.mpr behind
      rw [List.length_drop] at longer
      rw [List.length_take]
      omega

theorem cut_chunks {size fuel : Nat} (positive : 0 < size) {xs : List α}
    (enough : xs.length ≤ fuel) : Cut size xs (chunks size fuel xs) := by
  fun_induction chunks size fuel xs with
  | case1 xs =>
      obtain rfl := List.eq_nil_of_length_eq_zero (Nat.le_zero.mp enough)
      constructor <;> simp
  | case2 => constructor <;> simp
  | case3 fuel xs some_left ih =>
      refine Cut.cons positive some_left (ih ?_)
      rw [List.length_drop]
      omega

example : chunks 2 5 ["a", "b", "c", "d", "e"] = [["a", "b"], ["c", "d"], ["e"]] := by
  rfl

/-! ## The hits -/

/-- What a part of a lookup adds by what its backend did. -/
def contribution : Except Raised SearchResult → List Hit
  | .ok result => result.hits
  | .error _ => []

theorem hits_settled (r : Request) (outcome : Except Raised SearchResult) :
    (r.settled outcome).hits = contribution outcome := by
  rcases outcome with (f | f | o) | result <;> rfl

/-- Whether no hit before a place has the identifier of the hit there. -/
def isFirst (hits : List Hit) (entry : Hit × Nat) : Bool :=
  !(hits.take entry.2).any (·.objectId == entry.1.objectId)

/-- Hits without those of which an earlier one has the identifier. -/
def firstHits (hits : List Hit) : List Hit :=
  (hits.zipIdx.filter (isFirst hits)).map (·.1)

theorem isFirst_eq_not_contains {seen : List Phrase} {before : List Hit}
    (known : ∀ id, id ∈ seen ↔ id ∈ before.map (·.objectId)) (h : Hit) (hits : List Hit) :
    isFirst (before ++ h :: hits) (h, before.length) = !seen.contains h.objectId := by
  rw [isFirst, List.take_left, Bool.not_eq_eq_eq_not, Bool.not_not, Bool.eq_iff_iff]
  simp [known]

/-- The hits that are kept behind others whose identifiers were seen. -/
theorem distinctHits_eq {seen : List Phrase} {before : List Hit}
    (known : ∀ id, id ∈ seen ↔ id ∈ before.map (·.objectId)) (hits : List Hit) :
    distinctHits seen hits =
      ((hits.zipIdx before.length).filter (isFirst (before ++ hits))).map (·.1) := by
  induction hits generalizing seen before with
  | nil => rfl
  | cons h hits ih =>
      have spelled : before ++ h :: hits = (before ++ [h]) ++ hits := by simp
      have count : before.length + 1 = (before ++ [h]).length := by simp
      rw [distinctHits, List.zipIdx_cons, List.filter_cons, isFirst_eq_not_contains known]
      cases repeated : seen.contains h.objectId with
      | true =>
          have still_known : ∀ id, id ∈ seen ↔ id ∈ (before ++ [h]).map (·.objectId) := by
            intro id
            rw [List.map_append, List.mem_append, ← known, List.map_singleton,
              List.mem_singleton, or_iff_left_of_imp]
            rintro rfl
            exact List.contains_iff_mem.mp repeated
          rw [count, spelled]
          exact ih still_known
      | false =>
          have now_known : ∀ id,
              id ∈ h.objectId :: seen ↔ id ∈ (before ++ [h]).map (·.objectId) := by
            intro id
            rw [List.map_append, List.mem_append, ← known, List.map_singleton,
              List.mem_singleton, List.mem_cons, or_comm]
          rw [count, spelled]
          exact congrArg (h :: ·) (ih now_known)

theorem distinctHits_nil (hits : List Hit) : distinctHits [] hits = firstHits hits := by
  have none_known : ∀ id, id ∈ ([] : List Phrase) ↔ id ∈ ([] : List Hit).map (·.objectId) :=
    fun _ => Iff.rfl
  exact distinctHits_eq none_known hits

theorem head?_firstHits (hits : List Hit) : (firstHits hits).head? = hits.head? := by
  rw [← distinctHits_nil]
  cases hits <;> rfl

theorem objectId_notMem_of_mem_distinctHits {seen : List Phrase} {hits : List Hit} {h : Hit}
    (member : h ∈ distinctHits seen hits) : h.objectId ∉ seen := by
  fun_induction distinctHits seen hits with
  | case1 => cases member
  | case2 seen first hits known ih => exact ih member
  | case3 seen first hits unknown ih =>
      rcases List.mem_cons.mp member with rfl | later
      · simpa using unknown
      · exact fun known => ih later (List.mem_cons_of_mem _ known)

theorem nodup_objectIds (seen : List Phrase) (hits : List Hit) :
    ((distinctHits seen hits).map (·.objectId)).Nodup := by
  fun_induction distinctHits seen hits with
  | case1 => exact List.nodup_nil
  | case2 seen first hits known ih => exact ih
  | case3 seen first hits unknown ih =>
      rw [List.map_cons, List.nodup_cons]
      refine ⟨fun again => ?_, ih⟩
      obtain ⟨h, member, same⟩ := List.mem_map.mp again
      exact objectId_notMem_of_mem_distinctHits member (same ▸ List.mem_cons_self)

/-- What the parts of a lookup add: each what its own request gives, whatever becomes of the
others. -/
def contributions (b : Backend) (supplies : Nat → Supply) (requests : List Request) :
    List (List Hit) :=
  requests.mapIdx fun i r => contribution (b.outcome (supplies i) r)

theorem collect_results (index : String) (b : Backend) (supplies : Nat → Supply)
    (requests : List Request) :
    (collect index (b.results supplies requests)).2 =
      firstHits (contributions b supplies requests).flatten := by
  have each : (b.results supplies requests).map (·.hits) = contributions b supplies requests := by
    apply List.ext_getElem?
    intro i
    simp [Backend.results, contributions, List.getElem?_mapIdx, hits_settled, Function.comp_def]
  rw [collect, distinctHits_nil, List.flatMap_def, each]

end Lookup

namespace Service

open Lookup

/-! ## A whole lookup -/

/-- The requests of a lookup for parts of its identifiers. -/
def lookups (s : Service) (index : String) (chunks : List (List String)) : List Request :=
  chunks.map fun chunk =>
    { index := index
      filters := Filter.anyId (s.catalog.idField index) chunk
      hitsPerPage := chunk.length }

/-- A lookup as a plan, whether there is anything to look up or not. -/
theorem exists_plan_of_getByIds (s : Service) (index : String) (ids : List String)
    {chunkSize : Option Int} (positive : 0 < chunkSize.getD s.idChunkSize) :
    ∃ (plan : Plan (List Hit)) (chunks : List (List String)),
      s.getByIds index ids chunkSize = .ok plan ∧
      Cut (chunkSize.getD s.idChunkSize).toNat (distinctIds ids) chunks ∧
      plan.requests = (s.lookups index chunks).map .ok ∧
      ∀ b supplies, plan.Yields b supplies
        (firstHits (contributions b supplies (s.lookups index chunks)).flatten) := by
  let distinct := distinctIds ids
  let parts := Lookup.chunks (chunkSize.getD s.idChunkSize).toNat distinct.length distinct
  have cut : Cut (chunkSize.getD s.idChunkSize).toNat distinct parts :=
    cut_chunks (by omega) (Nat.le_refl _)
  by_cases none : distinct = []
  · refine ⟨.answer [], parts, ?_, cut, ?_, fun b supplies => ?_⟩
    · simp [getByIds, Int.not_le.mpr positive, show distinctIds ids = [] from none]
    · rw [cut.eq_nil_iff.mpr none]
      rfl
    · rw [cut.eq_nil_iff.mpr none]
      exact Plan.yields_answer []
  · refine ⟨.together [startEntry index distinct.length parts.length]
      ((s.lookups index parts).map .ok) (collect index), parts, ?_, cut, rfl, fun b supplies => ?_⟩
    · have some_left : (distinctIds ids).isEmpty = false := by
        rwa [← Bool.not_eq_true, List.isEmpty_iff]
      simp [getByIds, Int.not_le.mpr positive, some_left, lookups, Lookup.request, parts, distinct,
        Function.comp_def]
    · rw [← collect_results index]
      exact Plan.yields_together _ _ _

/-- A lookup asks for every identifier once, in parts of the size, and answers with the first hit
for each identifier among what the parts add. -/
theorem getByIds_exact (s : Service) (index : String) (ids : List String) (chunkSize : Option Int)
    (positive : 0 < chunkSize.getD s.idChunkSize) :
    ∃ (plan : Plan (List Hit)) (distinct : List String) (chunks : List (List String)),
      s.getByIds index ids chunkSize = .ok plan ∧
      FirstOccurrences (fun id => ¬ Blank id) ids distinct ∧
      Cut (chunkSize.getD s.idChunkSize).toNat distinct chunks ∧
      plan.requests = (s.lookups index chunks).map .ok ∧
      (plan.requests = [] ↔ ∀ id ∈ ids, Blank id) ∧
      ∀ b supplies, ∃ hits : List Hit,
        plan.Yields b supplies hits ∧
        hits = firstHits (contributions b supplies (s.lookups index chunks)).flatten ∧
        (hits.map (·.objectId)).Nodup := by
  obtain ⟨plan, chunks, planned, cut, requests, yields⟩ :=
    s.exists_plan_of_getByIds index ids positive
  have firsts := firstOccurrences_distinctIds ids
  refine ⟨plan, distinctIds ids, chunks, planned, firsts, cut, requests, ?_, ?_⟩
  · rw [requests, List.map_eq_nil_iff, lookups, List.map_eq_nil_iff, cut.eq_nil_iff,
      List.eq_nil_iff_forall_not_mem]
    simp [firsts.mem_iff]
  · intro b supplies
    refine ⟨_, yields b supplies, rfl, ?_⟩
    rw [← distinctHits_nil]
    exact nodup_objectIds [] _

theorem getByIds_exact_of_repetition :
    0 < (some 2 : Option Int).getD ({} : Service).idChunkSize ∧
    ∃ (plan : Plan (List Hit)) (distinct : List String),
      getByIds {} "shops" ["a", " ", "b", "a", "c"] (some 2) = .ok plan ∧
      FirstOccurrences (fun id => ¬ Blank id) ["a", " ", "b", "a", "c"] distinct ∧
      ∀ b supplies, ∃ hits : List Hit, plan.Yields b supplies hits ∧
        (hits.map (·.objectId)).Nodup := by
  refine ⟨by decide, ?_⟩
  obtain ⟨plan, distinct, chunks, planned, firsts, -, -, -, answers⟩ :=
    getByIds_exact {} "shops" ["a", " ", "b", "a", "c"] (some 2) (by decide)
  refine ⟨plan, distinct, planned, firsts, fun b supplies => ?_⟩
  obtain ⟨hits, yields, -, nodup⟩ := answers b supplies
  exact ⟨hits, yields, nodup⟩

/-! ## One record -/

variable [Platform]

/-- A lookup of one record asks for it as a lookup of several does. -/
theorem getById_eq (s : Service) (index id : String) :
    s.getById index (.str id) =
      .alone (.ok (Lookup.request index (s.catalog.idField index) [id])) fun r => r.hits.head? := by
  have built : s.request index ""
        (some { hitsPerPage := some 1, filters := [(.str (s.catalog.idField index), .str id)] }) =
      .ok (Lookup.request index (s.catalog.idField index) [id]) := by
    rw [request, Request.build, Option.getD_some, Filter.compile_text]
    rfl
  rw [getById, built]

/-- A lookup of one identifier sends the request that a lookup of the list of it sends, and answers
with the first of its hits, whatever the backend does with the request. -/
theorem getById_agrees_with_getByIds (s : Service) (index : String) {id : String}
    (present : ¬Blank id) {chunkSize : Option Int}
    (positive : 0 < chunkSize.getD s.idChunkSize) :
    ∃ plan : Plan (List Hit),
      let r := Lookup.request index (s.catalog.idField index) [id]
      s.getByIds index [id] chunkSize = .ok plan ∧
      plan.requests = [.ok r] ∧ (s.getById index (.str id)).requests = [.ok r] ∧
      ∀ b supplies, ∃ hits : List Hit,
        plan.Yields b supplies hits ∧
        (s.getById index (.str id)).Yields b supplies hits.head? ∧
        hits = firstHits (contribution (b.outcome (supplies 0) r)) := by
  obtain ⟨plan, chunks, planned, cut, requests, yields⟩ :=
    s.exists_plan_of_getByIds index [id] positive
  rw [distinctIds_singleton present] at cut
  obtain rfl := cut.eq_singleton
  have one : (s.getById index (.str id)).requests =
      [.ok (Lookup.request index (s.catalog.idField index) [id])] := by
    rw [getById_eq]
    rfl
  refine ⟨plan, planned, requests, one, fun b supplies => ?_⟩
  have added : (contributions b supplies (s.lookups index [[id]])).flatten =
      contribution (b.outcome (supplies 0) (Lookup.request index (s.catalog.idField index) [id])) :=
    List.flatten_singleton
  have severalYield := yields b supplies
  rw [added] at severalYield
  refine ⟨_, severalYield, ?_, rfl⟩
  rw [head?_firstHits, ← hits_settled, getById_eq]
  exact Plan.yields_alone _ _

omit [Platform] in
/-- A field whose name begins like a bound, and an identifier that looks like two. -/
theorem getById_agrees_with_getByIds_of_quoted_id :
    letI := Platform.usual
    let s : Service := { catalog := [("shops", { name := "shops", idField := "minCode" })] }
    let id := "7\" OR minCode:\"8"
    ¬Blank id ∧ 0 < (none : Option Int).getD s.idChunkSize ∧
    (Lookup.request "shops" (s.catalog.idField "shops") [id]).filters =
      "minCode:\"7\\\" OR minCode:\\\"8\"" ∧
    ∃ plan : Plan (List Hit),
      s.getByIds "shops" [id] none = .ok plan ∧
      plan.requests = (s.getById "shops" (.str id)).requests ∧
      ∀ b supplies, ∃ hits : List Hit,
        plan.Yields b supplies hits ∧
        (s.getById "shops" (.str id)).Yields b supplies hits.head? := by
  let _ := Platform.usual
  intro s id
  have present : ¬Blank id := fun blank => absurd (blank '7' (by decide)) (by decide)
  have positive : 0 < (none : Option Int).getD s.idChunkSize := by decide
  obtain ⟨plan, planned, several, one, answers⟩ :=
    getById_agrees_with_getByIds s "shops" present positive
  refine ⟨present, positive, by decide, plan, planned, several.trans one.symm, ?_⟩
  intro b supplies
  obtain ⟨hits, yields, yieldsOne, -⟩ := answers b supplies
  exact ⟨hits, yields, yieldsOne⟩

end Service

end Bazaar
