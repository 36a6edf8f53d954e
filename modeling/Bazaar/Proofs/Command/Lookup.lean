import Bazaar.Command.Basic
import Bazaar.Platform.Usual
import Bazaar.Proofs.Service.Records

/-!
# The end of a lookup

A lookup on the command line ends well exactly if every identifier that is asked for has a record
and stands in a part that was answered.  Otherwise it reports how many identifiers have no hit.  The
command only compares two counts, so this rests on the hits and the identifiers being free of
repetitions.
-/

namespace Bazaar.Command

open Lookup (Blank Cut distinctIds firstOccurrences_distinctIds)

/-- What is reported when some identifiers have no hit. -/
def missingEntry (missing : List String) : LogEntry :=
  ⟨.info, "Ids not found: " ++ toString missing.length⟩

/-- The end of a lookup by the identifiers that have no hit. -/
theorem lookupOutcome_eq (index : String) {ids : List String} {hits : List Hit}
    {missing : List String} (count : hits.length + missing.length = (distinctIds ids).length) :
    lookupOutcome index ids hits =
      { output := .lookup index hits
        after := if missing = [] then [] else [missingEntry missing]
        succeeded := missing.isEmpty } := by
  have difference : ((distinctIds ids).length - hits.length : Int) = missing.length := by omega
  unfold lookupOutcome
  rw [difference]
  dsimp only
  cases missing with
  | nil => rfl
  | cons id missing =>
      have positive : (0 : Int) < (id :: missing).length := by simp
      rw [if_pos positive, decide_eq_false (Int.not_le.mpr positive)]
      rfl

/-- A lookup ends well exactly if every identifier that is not blank has a record and was asked for
in a part that was answered.  If it does not, it reports how many of these identifiers have no hit;
each counts once, however often it is given. -/
theorem lookup_succeeds_iff [Platform] (s : Service) (index : String) (ids : List String) :
    (s.idChunkSize ≤ 0 → plan s (.lookup index ids) = .error .chunkSize) ∧
    (0 < s.idChunkSize → ∃ (whole : Plan Outcome) (chunks : List (List String)),
      plan s (.lookup index ids) = .ok whole ∧
      Cut s.idChunkSize.toNat (distinctIds ids) chunks ∧
      whole.requests = (s.lookups index chunks).map .ok ∧
      ∀ (held : Records) (b : Backend) (supplies : Nat → Supply), held.Apart →
        (∀ i asked, chunks[i]? = some asked →
          Records.Fails (s.partOutcome index b (supplies i) asked) ∨
            s.PartAnswered index held b (supplies i) asked) →
        ∃ (outcome : Outcome) (hits : List Hit) (missing : List String),
          whole.Yields b supplies outcome ∧
          outcome.output = .lookup index hits ∧
          held.Finds (s.AskedWell index held b supplies chunks) hits ∧
          FirstOccurrences (fun id => ¬Blank id ∧ ∀ h ∈ hits, held id ≠ some h) ids missing ∧
          (outcome.succeeded = true ↔ ∀ id ∈ ids, ¬Blank id →
            (held id).isSome = true ∧ s.AskedWell index held b supplies chunks id) ∧
          outcome.after = if outcome.succeeded then [] else [missingEntry missing]) := by
  refine ⟨fun none_fits => ?_, fun positive => ?_⟩
  · simp [plan, Service.getByIds, none_fits]
  obtain ⟨hitsPlan, chunks, planned, cut, requests, yields⟩ :=
    s.exists_plan_of_getByIds index ids (show 0 < Option.getD none s.idChunkSize from positive)
  refine ⟨hitsPlan.map (lookupOutcome index ids), chunks, ?_, cut, ?_, ?_⟩
  · rw [plan, planned]
    rfl
  · rw [Plan.requests_map, requests]
  intro held b supplies apart either
  classical
  have firsts := firstOccurrences_distinctIds ids
  have finds := Service.finds_askedWell apart either
  set hits := Lookup.firstHits (Lookup.contributions b supplies (s.lookups index chunks)).flatten
  let missing := (distinctIds ids).filter fun id => decide (∀ h ∈ hits, held id ≠ some h)
  have within : ∀ id, s.AskedWell index held b supplies chunks id → id ∈ distinctIds ids := by
    rintro id ⟨i, asked, there, isAsked, -⟩
    rw [← cut.flatten]
    exact List.mem_flatten.mpr ⟨asked, List.mem_of_getElem? there, isAsked⟩
  have missingFirsts : FirstOccurrences (fun id => ¬Blank id ∧ ∀ h ∈ hits, held id ≠ some h)
      ids missing := firsts.filter fun id _ => decide_eq_true_iff
  have count : hits.length + missing.length = (distinctIds ids).length :=
    finds.length_add apart firsts.nodup within fun id _ => decide_eq_true_iff
  have well : missing = [] ↔ ∀ id ∈ ids, ¬Blank id →
      (held id).isSome = true ∧ s.AskedWell index held b supplies chunks id := by
    rw [List.eq_nil_iff_forall_not_mem]
    simp only [missingFirsts.mem_iff, ← finds.exists_hit_iff apart]
    simp
  refine ⟨_, hits, missing, (yields b supplies).map _, ?_, finds, missingFirsts, ?_, ?_⟩
  all_goals rw [lookupOutcome_eq index count]
  · rw [← well]
    exact List.isEmpty_iff
  · simp

/-- A shelf with two records, of which the second cannot be reached. -/
theorem lookup_succeeds_iff_of_shelf :
    letI := Platform.usual
    let record (id : String) : Hit := ⟨id, .generic, []⟩
    let held : Records := fun id => if id = "a" ∨ id = "b" then some (record id) else none
    let timeout : Failure := ⟨.timeout, "timed out", none⟩
    let shelf : Backend :=
      { name := "shelf"
        execute := fun r => .done (
          if r.filters = "objectID:\"a\"" then
            .ok { index := r.index, query := r.term, hits := [record "a"] }
          else .error (.failure timeout))
        isReachable := fun _ => .done (.ok true) }
    let s : Service := { idChunkSize := 1 }
    let ids := ["a", " ", "b", "a"]
    0 < s.idChunkSize ∧ held.Apart ∧
    (∀ supply, s.PartAnswered "shops" held shelf supply ["a"]) ∧
    (∀ supply, Records.Fails (s.partOutcome "shops" shelf supply ["b"])) ∧
    ∀ supplies, ∃ whole outcome missing,
      plan s (.lookup "shops" ids) = .ok whole ∧ whole.Yields shelf supplies outcome ∧
      outcome.succeeded = false ∧ outcome.after = [missingEntry missing] ∧ "b" ∈ missing := by
  let _ := Platform.usual
  intro record held timeout shelf s ids
  have apart : held.Apart := by
    refine Records.apart_of_objectId fun id h own => ?_
    simp only [held, Option.ite_none_right_eq_some, Option.some.injEq] at own
    rw [← own.2]
  have first : Filter.anyId (s.catalog.idField "shops") ["a"] = "objectID:\"a\"" := by decide
  have second : Filter.anyId (s.catalog.idField "shops") ["b"] ≠ "objectID:\"a\"" := by decide
  have answered (supply : Supply) : s.PartAnswered "shops" held shelf supply ["a"] :=
    ⟨[record "a"], List.Perm.refl _, { index := "shops", query := "", hits := [record "a"] },
      if_pos first, rfl, rfl⟩
  have fails (supply : Supply) : Records.Fails (s.partOutcome "shops" shelf supply ["b"]) := by
    have outcome : s.partOutcome "shops" shelf supply ["b"] = .error (.failure timeout) :=
      if_neg second
    rw [outcome]
    exact .raised _
  refine ⟨by decide, apart, answered, fails, fun supplies => ?_⟩
  obtain ⟨whole, chunks, planned, cut, -, ends⟩ :=
    (lookup_succeeds_iff s "shops" ids).2 (by decide)
  have parts {i : Nat} {asked : List String} (there : chunks[i]? = some asked) :
      asked = ["a"] ∨ asked = ["b"] := by
    have member := List.mem_of_getElem? there
    have distinct : distinctIds ids = ["a", "b"] := by decide
    have consecutive : asked <:+: ["a", "b"] := by
      rw [← distinct, ← cut.flatten]
      exact List.infix_of_mem_flatten member
    have some_asked := cut.ne_nil asked member
    have one : asked.length ≤ 1 := cut.length_le asked member
    have cases : asked = [] ∨ asked = ["b"] ∨ asked = ["a"] ∨ asked = ["a", "b"] := by
      simpa using List.mem_sublists'.mpr consecutive.sublist
    rcases cases with rfl | rfl | rfl | rfl
    · exact absurd rfl some_asked
    · exact .inr rfl
    · exact .inl rfl
    · simp at one
  obtain ⟨outcome, hits, missing, yields, -, finds, firsts, well, after⟩ :=
    ends held shelf supplies apart fun i asked there => by
      rcases parts there with rfl | rfl
      · exact .inr (answered _)
      · exact .inl (fails _)
  have unanswered : ¬s.AskedWell "shops" held shelf supplies chunks "b" := by
    rintro ⟨i, asked, there, isAsked, partAnswered⟩
    rcases parts there with rfl | rfl
    · simp at isAsked
    · exact (fails _).not_answers partAnswered
  have notBlank : ¬Blank "b" := by
    intro blank
    exact absurd (blank 'b' (by decide)) (by decide)
  have failed : outcome.succeeded = false := by
    rw [← Bool.not_eq_true, well]
    exact fun all => unanswered (all "b" (by decide) notBlank).2
  refine ⟨whole, outcome, missing, planned, yields, failed, ?_, ?_⟩
  · rw [after, failed]
    rfl
  · rw [firsts.mem_iff]
    refine ⟨by decide, notBlank, fun h member own => unanswered ?_⟩
    exact ((finds.exists_hit_iff apart "b").mp ⟨h, member, own⟩).2

end Bazaar.Command
