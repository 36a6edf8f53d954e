import Bazaar.Proofs.Service.Lookup
import Bazaar.Proofs.Text.Phrase
import Mathlib.Data.List.Infix
import Mathlib.Data.List.Nodup
import Mathlib.Data.List.Sublists

/-!
# Lookups in a collection of records

A search service holds at most one record for each identifier, and records of different identifiers
can be told apart.  Then a lookup finds the records of the identifiers that it asked for in a part
that was answered, each once.  If every part is answered, the size of the parts shows at most in the
order of the hits.
-/

namespace Bazaar

/-- The records that a search service holds, at most one for each identifier. -/
abbrev Records := String → Option Hit

namespace Records

/-- Records of different identifiers have different identifiers of their own. -/
def Apart (held : Records) : Prop :=
  ∀ ⦃id id' : String⦄ ⦃h h' : Hit⦄,
    held id = some h → held id' = some h' → h.objectId = h'.objectId → id = id'

/-- Hits that are the records of the identifiers of a kind, each record once. -/
structure Finds (held : Records) (kind : String → Prop) (hits : List Hit) : Prop where
  mem_iff : ∀ h, h ∈ hits ↔ ∃ id, kind id ∧ held id = some h
  nodup : (hits.map (·.objectId)).Nodup

variable {held : Records} {kind : String → Prop} {hits hits' : List Hit}

/-- Records are apart if each has the identifier for which it is held. -/
theorem apart_of_objectId (own : ∀ id h, held id = some h → h.objectId = id) : held.Apart :=
  fun id id' h h' found found' same => by
    rwa [own id h found, own id' h' found', Phrase.ofString_inj] at same

/-- Records with one identifier of their own are one record. -/
theorem Apart.eq (apart : held.Apart) {id id' : String} {h h' : Hit} (found : held id = some h)
    (found' : held id' = some h') (same : h.objectId = h'.objectId) : h = h' := by
  obtain rfl := apart found found' same
  exact Option.some.inj (found.symm.trans found')

theorem nodup_objectIds_filterMap (apart : held.Apart) {ids : List String} (distinct : ids.Nodup) :
    ((ids.filterMap held).map (·.objectId)).Nodup := by
  rw [List.map_filterMap]
  refine distinct.filterMap fun id id' objectId own own' => ?_
  obtain ⟨h, found, same⟩ := Option.map_eq_some_iff.mp own
  obtain ⟨h', found', same'⟩ := Option.map_eq_some_iff.mp own'
  exact apart found found' (same.trans same'.symm)

/-- What a lookup finds is settled by its identifiers, up to the order. -/
theorem Finds.perm (finds : held.Finds kind hits) (finds' : held.Finds kind hits') :
    hits.Perm hits' := by
  refine (List.perm_ext_iff_of_nodup finds.nodup.of_map finds'.nodup.of_map).mpr fun h => ?_
  rw [finds.mem_iff, finds'.mem_iff]

theorem finds_filterMap (apart : held.Apart) {ids : List String} (distinct : ids.Nodup) :
    held.Finds (· ∈ ids) (ids.filterMap held) where
  mem_iff _ := List.mem_filterMap
  nodup := nodup_objectIds_filterMap apart distinct

/-- A record is among the hits exactly if it is held for an identifier of the kind. -/
theorem Finds.exists_hit_iff (finds : held.Finds kind hits) (apart : held.Apart) (id : String) :
    (∃ h ∈ hits, held id = some h) ↔ (held id).isSome = true ∧ kind id := by
  constructor
  · rintro ⟨h, member, own⟩
    obtain ⟨id', ofKind, own'⟩ := (finds.mem_iff h).mp member
    obtain rfl := apart own own' rfl
    exact ⟨Option.isSome_of_mem own, ofKind⟩
  · rintro ⟨isHeld, ofKind⟩
    obtain ⟨h, own⟩ := Option.isSome_iff_exists.mp isHeld
    exact ⟨h, (finds.mem_iff h).mpr ⟨id, ofKind, own⟩, own⟩

/-- Every hit stands for one of the identifiers, and the others are those without a hit. -/
theorem Finds.length_add (finds : held.Finds kind hits) (apart : held.Apart) {ids : List String}
    (distinct : ids.Nodup) (within : ∀ id, kind id → id ∈ ids) {isMissing : String → Bool}
    (decides : ∀ id ∈ ids, isMissing id = true ↔ ∀ h ∈ hits, held id ≠ some h) :
    hits.length + (ids.filter isMissing).length = ids.length := by
  let found := ids.filter fun id => !isMissing id
  have mem_found (id : String) : id ∈ found ↔ id ∈ ids ∧ ∃ h ∈ hits, held id = some h := by
    rw [List.mem_filter]
    refine and_congr_right fun member => ?_
    rw [Bool.not_eq_true', ← Bool.not_eq_true, decides id member]
    simp
  have each : held.Finds (· ∈ found) hits := by
    refine ⟨fun h => ⟨fun member => ?_, ?_⟩, finds.nodup⟩
    · obtain ⟨id, ofKind, own⟩ := (finds.mem_iff h).mp member
      exact ⟨id, (mem_found id).mpr ⟨within id ofKind, h, member, own⟩, own⟩
    · rintro ⟨id, isFound, own⟩
      obtain ⟨-, h', member, own'⟩ := (mem_found id).mp isFound
      obtain rfl := Option.some.inj (own.symm.trans own')
      exact member
  have allHeld : (found.filterMap held).length = found.length := by
    rw [List.length_filterMap_eq_countP, List.countP_eq_length]
    intro id isFound
    obtain ⟨-, h, -, own⟩ := (mem_found id).mp isFound
    exact Option.isSome_of_mem own
  have count := (each.perm (finds_filterMap apart (distinct.filter _))).length_eq
  rw [count, allHeld, Nat.add_comm]
  exact (List.length_eq_length_filter_add isMissing).symm

/-! ## Answers of the service -/

/-- A request is answered with the first page of what was found. -/
def GivesPage (found : List Hit) (r : Request) (outcome : Except Raised SearchResult) : Prop :=
  ∃ result : SearchResult, outcome = .ok result ∧ result.failure = none ∧
    result.hits = found.take r.hitsPerPage.toNat

/-- A request for some identifiers is answered with their records, in any order, as far as the page
goes. -/
def Answers (held : Records) (asked : List String) (r : Request)
    (outcome : Except Raised SearchResult) : Prop :=
  ∃ found : List Hit, found.Perm (asked.filterMap held) ∧ GivesPage found r outcome

/-- A request fails and brings no hits. -/
inductive Fails : Except Raised SearchResult → Prop where
  | raised (raised : Raised) : Fails (.error raised)
  | degraded {result : SearchResult} :
      result.degraded = true → result.hits = [] → Fails (.ok result)

theorem Fails.contribution {outcome : Except Raised SearchResult} (fails : Fails outcome) :
    Lookup.contribution outcome = [] := by
  cases fails with
  | raised => rfl
  | degraded _ none_found => exact none_found

theorem Fails.not_answers {outcome : Except Raised SearchResult} (fails : Fails outcome)
    {asked : List String} {r : Request} : ¬held.Answers asked r outcome := by
  rintro ⟨found, -, result, rfl, well, -⟩
  cases fails with
  | degraded degraded => simp [SearchResult.degraded, well] at degraded

variable {asked : List String} {index idField : String} {outcome : Except Raised SearchResult}

/-- A page for all identifiers that are asked for holds all their records. -/
theorem contribution_of_page {found : List Hit}
    (perm : found.Perm (asked.filterMap held))
    (page : GivesPage found (Lookup.request index idField asked) outcome) :
    Lookup.contribution outcome = found := by
  obtain ⟨result, rfl, -, hits⟩ := page
  have room : found.length ≤ asked.length :=
    perm.length_eq.trans_le (List.length_filterMap_le held asked)
  rw [Lookup.contribution, hits]
  exact List.take_of_length_le room

theorem Answers.mem_contribution_iff
    (answers : held.Answers asked (Lookup.request index idField asked) outcome) (h : Hit) :
    h ∈ Lookup.contribution outcome ↔ ∃ id ∈ asked, held id = some h := by
  obtain ⟨found, perm, page⟩ := answers
  rw [contribution_of_page perm page, perm.mem_iff, List.mem_filterMap]

end Records

/-! ## Hits that are kept -/

namespace Lookup

/-- Hits of different identifiers are all kept. -/
theorem distinctHits_eq_self {seen : List Phrase} {hits : List Hit}
    (distinct : (hits.map (·.objectId)).Nodup) (unseen : ∀ h ∈ hits, h.objectId ∉ seen) :
    distinctHits seen hits = hits := by
  induction hits generalizing seen with
  | nil => rfl
  | cons h hits ih =>
      obtain ⟨absent, rest⟩ := List.nodup_cons.mp distinct
      have isNew : seen.contains h.objectId = false := by
        simpa using unseen h List.mem_cons_self
      have unseen' : ∀ h' ∈ hits, h'.objectId ∉ h.objectId :: seen := by
        intro h' member known
        rcases List.mem_cons.mp known with same | before
        · exact absent (List.mem_map.mpr ⟨h', member, same⟩)
        · exact unseen h' (List.mem_cons_of_mem h member) before
      rw [distinctHits, isNew]
      exact congrArg (h :: ·) (ih rest unseen')

theorem firstHits_eq_self {hits : List Hit} (distinct : (hits.map (·.objectId)).Nodup) :
    firstHits hits = hits := by
  rw [← distinctHits_nil]
  exact distinctHits_eq_self distinct fun _ _ => List.not_mem_nil

theorem mem_of_mem_distinctHits {seen : List Phrase} {hits : List Hit} {h : Hit}
    (kept : h ∈ distinctHits seen hits) : h ∈ hits := by
  fun_induction distinctHits seen hits with
  | case1 => cases kept
  | case2 seen first hits known ih => exact List.mem_cons_of_mem first (ih kept)
  | case3 seen first hits unknown ih =>
      rcases List.mem_cons.mp kept with rfl | later
      · exact List.mem_cons_self
      · exact List.mem_cons_of_mem first (ih later)

/-- For each identifier that was not seen before a hit is kept. -/
theorem exists_mem_distinctHits {seen : List Phrase} {hits : List Hit} {h : Hit} (member : h ∈ hits)
    (unseen : h.objectId ∉ seen) : ∃ h' ∈ distinctHits seen hits, h'.objectId = h.objectId := by
  fun_induction distinctHits seen hits with
  | case1 => cases member
  | case2 seen first hits known ih =>
      rcases List.mem_cons.mp member with rfl | later
      · exact absurd (List.contains_iff_mem.mp known) unseen
      · exact ih later unseen
  | case3 seen first hits unknown ih =>
      by_cases own : h.objectId = first.objectId
      · exact ⟨first, List.mem_cons_self, own.symm⟩
      · rcases List.mem_cons.mp member with rfl | later
        · exact absurd rfl own
        · have unseen' : h.objectId ∉ first.objectId :: seen := by simp [own, unseen]
          obtain ⟨h', kept, same⟩ := ih later unseen'
          exact ⟨h', List.mem_cons_of_mem first kept, same⟩

/-- If hits with one identifier are one hit, none is lost. -/
theorem mem_firstHits_iff {hits : List Hit}
    (one : ∀ h ∈ hits, ∀ h' ∈ hits, h.objectId = h'.objectId → h = h') (h : Hit) :
    h ∈ firstHits hits ↔ h ∈ hits := by
  rw [← distinctHits_nil]
  refine ⟨mem_of_mem_distinctHits, fun member => ?_⟩
  obtain ⟨h', kept, same⟩ := exists_mem_distinctHits member List.not_mem_nil
  obtain rfl := one h' (mem_of_mem_distinctHits kept) h member same
  exact kept

end Lookup

namespace Service

open Lookup (Blank Cut contribution contributions distinctIds firstHits
  firstOccurrences_distinctIds)

/-! ## Whole lookups -/

section Parts

/-- What becomes of the request for a part of a lookup. -/
def partOutcome (s : Service) (index : String) (b : Backend) (supply : Supply)
    (asked : List String) : Except Raised SearchResult :=
  b.outcome supply (Lookup.request index (s.catalog.idField index) asked)

/-- A part of a lookup is answered with the records that are held for it. -/
def PartAnswered (s : Service) (index : String) (held : Records) (b : Backend) (supply : Supply)
    (asked : List String) : Prop :=
  held.Answers asked (Lookup.request index (s.catalog.idField index) asked)
    (s.partOutcome index b supply asked)

/-- An identifier is in a part of a lookup that is answered. -/
def AskedWell (s : Service) (index : String) (held : Records) (b : Backend)
    (supplies : Nat → Supply) (chunks : List (List String)) (id : String) : Prop :=
  ∃ i asked, chunks[i]? = some asked ∧ id ∈ asked ∧
    s.PartAnswered index held b (supplies i) asked

variable {s : Service} {index : String} {b : Backend} {supplies : Nat → Supply} {held : Records}
  {chunks : List (List String)}

theorem mem_contributions_iff {h : Hit} :
    h ∈ (contributions b supplies (s.lookups index chunks)).flatten ↔
      ∃ i asked, chunks[i]? = some asked ∧
        h ∈ contribution (s.partOutcome index b (supplies i) asked) := by
  simp only [contributions, lookups, List.mem_flatten, List.mem_iff_getElem? (l := List.mapIdx _ _),
    List.getElem?_mapIdx, List.getElem?_map, Option.map_map, Option.map_eq_some_iff]
  constructor
  · rintro ⟨_, ⟨i, asked, there, rfl⟩, member⟩
    exact ⟨i, asked, there, member⟩
  · rintro ⟨i, asked, there, member⟩
    exact ⟨_, ⟨i, asked, there, rfl⟩, member⟩

/-- The parts that are answered bring the records of their identifiers, all others nothing. -/
theorem mem_contributions_iff_askedWell
    (either : ∀ i asked, chunks[i]? = some asked →
      Records.Fails (s.partOutcome index b (supplies i) asked) ∨
        s.PartAnswered index held b (supplies i) asked) {h : Hit} :
    h ∈ (contributions b supplies (s.lookups index chunks)).flatten ↔
      ∃ id, s.AskedWell index held b supplies chunks id ∧ held id = some h := by
  rw [mem_contributions_iff]
  constructor
  · rintro ⟨i, asked, there, member⟩
    rcases either i asked there with fails | answered
    · rw [fails.contribution] at member
      cases member
    · obtain ⟨id, isAsked, found⟩ := (answered.mem_contribution_iff h).mp member
      exact ⟨id, ⟨i, asked, there, isAsked, answered⟩, found⟩
  · rintro ⟨id, ⟨i, asked, there, isAsked, answered⟩, found⟩
    exact ⟨i, asked, there, (answered.mem_contribution_iff h).mpr ⟨id, isAsked, found⟩⟩

/-- A lookup finds the records of the identifiers in the parts that are answered. -/
theorem finds_askedWell (apart : held.Apart)
    (either : ∀ i asked, chunks[i]? = some asked →
      Records.Fails (s.partOutcome index b (supplies i) asked) ∨
        s.PartAnswered index held b (supplies i) asked) :
    held.Finds (s.AskedWell index held b supplies chunks)
      (firstHits (contributions b supplies (s.lookups index chunks)).flatten) where
  mem_iff h := by
    rw [Lookup.mem_firstHits_iff, mem_contributions_iff_askedWell either]
    intro h member h' member' same
    obtain ⟨id, -, found⟩ := (mem_contributions_iff_askedWell either).mp member
    obtain ⟨id', -, found'⟩ := (mem_contributions_iff_askedWell either).mp member'
    exact apart.eq found found' same
  nodup := by
    rw [← Lookup.distinctHits_nil]
    exact Lookup.nodup_objectIds [] _

/-- If every part is answered, all identifiers of the parts are. -/
theorem askedWell_iff (answered : ∀ i asked, chunks[i]? = some asked →
      s.PartAnswered index held b (supplies i) asked) (id : String) :
    s.AskedWell index held b supplies chunks id ↔ id ∈ chunks.flatten := by
  rw [List.mem_flatten]
  constructor
  · rintro ⟨i, asked, there, isAsked, -⟩
    exact ⟨asked, List.mem_of_getElem? there, isAsked⟩
  · rintro ⟨asked, member, isAsked⟩
    obtain ⟨i, there⟩ := List.mem_iff_getElem?.mp member
    exact ⟨i, asked, there, isAsked, answered i asked there⟩

/-- A part of a lookup is answered with the records of its identifiers in their order. -/
def PartAnsweredInOrder (s : Service) (index : String) (held : Records) (b : Backend)
    (supply : Supply) (asked : List String) : Prop :=
  Records.GivesPage (asked.filterMap held)
    (Lookup.request index (s.catalog.idField index) asked) (s.partOutcome index b supply asked)

/-- Parts that are answered in the order of their identifiers bring all records in order. -/
theorem contributions_of_inOrder (inOrder : ∀ i asked, chunks[i]? = some asked →
      s.PartAnsweredInOrder index held b (supplies i) asked) :
    (contributions b supplies (s.lookups index chunks)).flatten =
      chunks.flatten.filterMap held := by
  have each : contributions b supplies (s.lookups index chunks) =
      chunks.map (List.filterMap held) := by
    apply List.ext_getElem?
    intro i
    rw [contributions, lookups, List.getElem?_mapIdx, List.getElem?_map, List.getElem?_map]
    cases there : chunks[i]? with
    | none => rfl
    | some asked =>
        exact congrArg some
          (Records.contribution_of_page (List.Perm.refl _) (inOrder i asked there))
  rw [each, List.filterMap_flatten]

end Parts

/-- A service that answers every part of a lookup in its own order gives all records that are held
for the identifiers, each once; and if it answers in the order of the identifiers, they come in that
order. -/
theorem exists_records_of_answered (s : Service) (index : String) (ids : List String)
    {held : Records} (apart : held.Apart) (b : Backend) {supplies : Nat → Supply}
    {chunkSize : Option Int} (positive : 0 < chunkSize.getD s.idChunkSize)
    (answered : ∀ i asked, asked <:+: distinctIds ids →
      s.PartAnswered index held b (supplies i) asked) :
    ∃ plan hits, s.getByIds index ids chunkSize = .ok plan ∧ plan.Yields b supplies hits ∧
      held.Finds (· ∈ distinctIds ids) hits ∧
      ((∀ i asked, asked <:+: distinctIds ids →
          s.PartAnsweredInOrder index held b (supplies i) asked) →
        hits = (distinctIds ids).filterMap held) := by
  obtain ⟨plan, chunks, planned, cut, -, yields⟩ :=
    s.exists_plan_of_getByIds index ids positive
  have consecutive {i : Nat} {asked : List String} (there : chunks[i]? = some asked) :
      asked <:+: distinctIds ids := by
    rw [← cut.flatten]
    exact List.infix_of_mem_flatten (List.mem_of_getElem? there)
  have partsAnswered : ∀ i asked, chunks[i]? = some asked →
      s.PartAnswered index held b (supplies i) asked :=
    fun i asked there => answered i asked (consecutive there)
  have finds := finds_askedWell apart fun i asked there => .inr (partsAnswered i asked there)
  refine ⟨plan, _, planned, yields b supplies, ⟨fun h => ?_, finds.nodup⟩, fun inOrder => ?_⟩
  · simp only [finds.mem_iff, askedWell_iff partsAnswered, cut.flatten]
  · rw [contributions_of_inOrder fun i asked there => inOrder i asked (consecutive there),
      cut.flatten]
    exact Lookup.firstHits_eq_self
      (Records.nodup_objectIds_filterMap apart (firstOccurrences_distinctIds ids).nodup)

/-- Two lookups of the same identifiers in parts of different sizes find the same records, one for
each identifier for which one is held.  If the service answers in the order of the identifiers, the
two lists of hits are equal. -/
theorem getByIds_independent_of_size (s : Service) (index : String) (ids : List String)
    {held : Records} (apart : held.Apart) (b : Backend) {size size' : Option Int}
    (positive : 0 < size.getD s.idChunkSize) (positive' : 0 < size'.getD s.idChunkSize)
    {supplies supplies' : Nat → Supply}
    (answered : ∀ i asked, asked <:+: distinctIds ids →
      s.PartAnswered index held b (supplies i) asked ∧
      s.PartAnswered index held b (supplies' i) asked) :
    ∃ plan plan' hits hits',
      s.getByIds index ids size = .ok plan ∧ plan.Yields b supplies hits ∧
      s.getByIds index ids size' = .ok plan' ∧ plan'.Yields b supplies' hits' ∧
      hits.Perm hits' ∧
      held.Finds (fun id => id ∈ ids ∧ ¬Blank id) hits ∧
      ((∀ i asked, asked <:+: distinctIds ids →
          s.PartAnsweredInOrder index held b (supplies i) asked ∧
          s.PartAnsweredInOrder index held b (supplies' i) asked) →
        hits = hits') := by
  obtain ⟨plan, hits, planned, yields, finds, ordered⟩ :=
    s.exists_records_of_answered index ids apart b positive
      fun i asked consecutive => (answered i asked consecutive).1
  obtain ⟨plan', hits', planned', yields', finds', ordered'⟩ :=
    s.exists_records_of_answered index ids apart b positive'
      fun i asked consecutive => (answered i asked consecutive).2
  refine ⟨plan, plan', hits, hits', planned, yields, planned', yields', finds.perm finds',
    ⟨fun h => ?_, finds.nodup⟩, fun inOrder => ?_⟩
  · simp only [finds.mem_iff, (firstOccurrences_distinctIds ids).mem_iff]
  · rw [ordered fun i asked consecutive => (inOrder i asked consecutive).1,
      ordered' fun i asked consecutive => (inOrder i asked consecutive).2]

/-- A shelf with two records, from which the later one is handed out first. -/
theorem getByIds_independent_of_size_of_shelf :
    let record (id : String) : Hit := ⟨id, .generic, []⟩
    let held : Records := fun id => if id = "a" ∨ id = "b" then some (record id) else none
    let found (filters : String) : List Hit :=
      if filters = "objectID:\"a\"" then [record "a"]
      else if filters = "objectID:\"b\"" then [record "b"]
      else if filters = "objectID:\"a\" OR objectID:\"b\"" then [record "b", record "a"]
      else []
    let shelf : Backend :=
      { name := "shelf"
        execute := fun r =>
          .done (.ok { index := r.index, query := r.term, hits := found r.filters })
        isReachable := fun _ => .done (.ok true) }
    let ids := ["a", " ", "b", "a"]
    held.Apart ∧ 0 < (some 1 : Option Int).getD ({} : Service).idChunkSize ∧
    0 < (some 2 : Option Int).getD ({} : Service).idChunkSize ∧
    (∀ supply asked, asked <:+: distinctIds ids →
      PartAnswered {} "shops" held shelf supply asked) ∧
    ∀ supplies, ∃ plan plan' hits hits',
      getByIds {} "shops" ids (some 1) = .ok plan ∧ plan.Yields shelf supplies hits ∧
      getByIds {} "shops" ids (some 2) = .ok plan' ∧ plan'.Yields shelf supplies hits' ∧
      hits.Perm hits' := by
  intro record held found shelf ids
  have apart : held.Apart := by
    refine Records.apart_of_objectId fun id h own => ?_
    simp only [held, Option.ite_none_right_eq_some, Option.some.injEq] at own
    rw [← own.2]
  have answered : ∀ supply asked, asked <:+: distinctIds ids →
      PartAnswered {} "shops" held shelf supply asked := by
    intro supply asked consecutive
    have distinct : distinctIds ids = ["a", "b"] := by decide
    rw [distinct] at consecutive
    have cases : asked = [] ∨ asked = ["b"] ∨ asked = ["a"] ∨ asked = ["a", "b"] := by
      simpa using List.mem_sublists'.mpr consecutive.sublist
    rcases cases with rfl | rfl | rfl | rfl
    · exact ⟨[], List.Perm.refl _, _, rfl, rfl, rfl⟩
    · exact ⟨[record "b"], List.Perm.refl _, _, rfl, rfl, rfl⟩
    · exact ⟨[record "a"], List.Perm.refl _, _, rfl, rfl, rfl⟩
    · exact ⟨[record "b", record "a"], List.Perm.swap _ _ _, _, rfl, rfl, rfl⟩
  have one : 0 < (some 1 : Option Int).getD ({} : Service).idChunkSize := by decide
  have two : 0 < (some 2 : Option Int).getD ({} : Service).idChunkSize := by decide
  refine ⟨apart, one, two, answered, fun supplies => ?_⟩
  obtain ⟨plan, plan', hits, hits', planned, yields, planned', yields', perm, -⟩ :=
    getByIds_independent_of_size {} "shops" ids apart shelf one two fun i asked consecutive =>
      ⟨answered (supplies i) asked consecutive, answered (supplies i) asked consecutive⟩
  exact ⟨plan, plan', hits, hits', planned, yields, planned', yields', perm⟩

end Service

end Bazaar
