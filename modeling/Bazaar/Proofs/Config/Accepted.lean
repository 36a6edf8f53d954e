import Bazaar.Config.Basic
import Bazaar.Proofs.Outcome
import Bazaar.Proofs.Retry

/-!
# Accepted configurations

What is known of settings that were read without a fault: their catalog describes usable indices,
combined searches name indices of the catalog, page sizes are positive, and the retry settings are
accepted with doubles as time limits.
-/

namespace Bazaar

/-- A catalog entry that searches can work with: its kind is one of those that records can have. -/
structure IndexSpec.Usable (spec : IndexSpec) : Prop where
  name : spec.name ≠ ""
  idField : spec.idField ≠ ""
  kind : ∃ kind : HitKind, spec.kind = kind.name ∧ HitKind.ofName? spec.kind = some kind

/-- Retry settings that are accepted, with doubles as time limits. -/
structure RetryPolicy.Sound (p : RetryPolicy) : Prop where
  accepted : p.fault? = none
  doubles : ∀ t ∈ p.timeouts, ∃ x, t.toFloat = .ok x

namespace Config

/-- Settings that a service can work with. -/
structure Settings.Usable (s : Settings) : Prop where
  fanOut_ne_nil : s.search.fanOutIndices ≠ []
  fanOut_nodup : (s.search.fanOutIndices.map Word.value).Nodup
  fanOut_known : ∀ word ∈ s.search.fanOutIndices, ∃ spec, s.catalog.spec? word.value = some spec
  health_known : ∀ word ∈ s.search.healthIndices, ∃ spec, s.catalog.spec? word.value = some spec
  catalog : ∀ entry ∈ s.catalog, entry.2.Usable
  hitsPerPage : 0 < s.search.hitsPerPage
  fanOutHitsPerPage : 0 < s.search.fanOutHitsPerPage
  idChunkSize : 0 < s.search.idChunkSize
  quietMillis : 0 ≤ s.search.quietMillis

/-! ## Checks -/

theorem of_ensure {holds : Bool} {key : String} {rule : Rule} {u : Unit}
    (passed : ensure holds key rule = .ok u) : holds = true := by
  unfold ensure at passed
  split at passed
  · assumption
  · cases passed

/-- A check that passed before others. -/
theorem of_ensure_bind {holds : Bool} {key : String} {rule : Rule} {rest : Unit → Checked α} {a : α}
    (passed : (ensure holds key rule >>= rest) = .ok a) : holds = true ∧ rest () = .ok a := by
  obtain ⟨_, first, others⟩ := exists_of_bind_eq_ok passed
  exact ⟨of_ensure first, others⟩

theorem allDistinct_iff (words : List String) : allDistinct words = true ↔ words.Nodup := by
  induction words with
  | nil => exact iff_of_true rfl List.nodup_nil
  | cons word words ih => simp [allDistinct, ih]

theorem known_of_checkKnown {catalog : Catalog} {key : String} {words : List Word} {u : Unit}
    (passed : checkKnown catalog key words = .ok u) :
    ∀ word ∈ words, ∃ spec, catalog.spec? word.value = some spec := by
  induction words with
  | nil => exact List.forall_mem_nil _
  | cons word words ih =>
      unfold checkKnown at passed
      split at passed
      · rename_i isKnown
        exact List.forall_mem_cons.mpr ⟨Option.isSome_iff_exists.mp isKnown, ih passed⟩
      · cases passed

theorem name_of_ofName? {word : String} {kind : HitKind}
    (found : HitKind.ofName? word = some kind) : word = kind.name := by
  unfold HitKind.ofName? at found
  have same := List.find?_some found
  exact (beq_iff_eq.mp same).symm

theorem usable_of_checkIndex {logical : String} {spec : IndexSpec} {u : Unit}
    (passed : checkIndex logical spec = .ok u) : spec.Usable := by
  obtain ⟨named, passed⟩ := of_ensure_bind passed
  obtain ⟨sort, passed⟩ := of_ensure_bind passed
  have identified := of_ensure passed
  obtain ⟨kind, found⟩ := Option.isSome_iff_exists.mp sort
  exact ⟨by simpa using named, by simpa using identified, kind, name_of_ofName? found, found⟩

theorem usable_of_checkIndices {catalog : Catalog} {u : Unit}
    (passed : checkIndices catalog = .ok u) : ∀ entry ∈ catalog, entry.2.Usable := by
  induction catalog with
  | nil => exact List.forall_mem_nil _
  | cons entry catalog ih =>
      obtain ⟨_, first, others⟩ := exists_of_bind_eq_ok passed
      exact List.forall_mem_cons.mpr ⟨usable_of_checkIndex first, ih others⟩

/-! ## Settings -/

variable {root : Mapping}

section Checks

variable [Platform] {env : Environment} {s : Settings}

/-- The checks behind accepted settings. -/
theorem checks_of_read (accepted : read env root = .ok s) :
    readRetry root = .ok s.retry ∧ checkConnection s.connection = .ok () ∧
      checkSearch s.search = .ok () ∧ checkCatalog s.catalog = .ok () ∧
      checkKnown s.catalog "search.fan_out_indices" s.search.fanOutIndices = .ok () ∧
      checkKnown s.catalog "search.health_indices" s.search.healthIndices = .ok () := by
  obtain ⟨log, -, accepted⟩ := exists_of_bind_eq_ok accepted
  obtain ⟨connection, -, accepted⟩ := exists_of_bind_eq_ok accepted
  obtain ⟨retry, retryRead, accepted⟩ := exists_of_bind_eq_ok accepted
  obtain ⟨search, -, accepted⟩ := exists_of_bind_eq_ok accepted
  obtain ⟨catalog, -, accepted⟩ := exists_of_bind_eq_ok accepted
  obtain ⟨_, -, accepted⟩ := exists_of_bind_eq_ok accepted
  obtain ⟨_, connectionChecked, accepted⟩ := exists_of_bind_eq_ok accepted
  obtain ⟨_, searchChecked, accepted⟩ := exists_of_bind_eq_ok accepted
  obtain ⟨_, catalogChecked, accepted⟩ := exists_of_bind_eq_ok accepted
  obtain ⟨_, fanOutChecked, accepted⟩ := exists_of_bind_eq_ok accepted
  obtain ⟨_, healthChecked, accepted⟩ := exists_of_bind_eq_ok accepted
  cases accepted
  exact ⟨retryRead, connectionChecked, searchChecked, catalogChecked, fanOutChecked, healthChecked⟩

/-- Accepted settings can be worked with. -/
theorem usable_of_read (accepted : read env root = .ok s) : s.Usable := by
  obtain ⟨-, -, search, catalog, fanOut, health⟩ := checks_of_read accepted
  obtain ⟨hitsPerPage, search⟩ := of_ensure_bind search
  obtain ⟨fanOutHitsPerPage, search⟩ := of_ensure_bind search
  obtain ⟨quietMillis, search⟩ := of_ensure_bind search
  obtain ⟨idChunkSize, search⟩ := of_ensure_bind search
  obtain ⟨some_fanOut, search⟩ := of_ensure_bind search
  obtain ⟨distinct, -⟩ := of_ensure_bind search
  obtain ⟨-, indices⟩ := of_ensure_bind catalog
  exact {
    fanOut_ne_nil := by simpa using some_fanOut
    fanOut_nodup := (allDistinct_iff _).mp distinct
    fanOut_known := known_of_checkKnown fanOut
    health_known := known_of_checkKnown health
    catalog := usable_of_checkIndices indices
    hitsPerPage := of_decide_eq_true hitsPerPage
    fanOutHitsPerPage := of_decide_eq_true fanOutHitsPerPage
    idChunkSize := of_decide_eq_true idChunkSize
    quietMillis := of_decide_eq_true quietMillis }

/-- The host of accepted settings is left out or names a protocol of the web. -/
theorem host_of_read (accepted : read env root = .ok s) :
    s.connection.host.isEmpty = true ∨ isWebAddress s.connection.host = true := by
  obtain ⟨-, connection, -⟩ := checks_of_read accepted
  obtain ⟨-, host⟩ := of_ensure_bind connection
  exact Bool.or_eq_true_iff.mp (of_ensure host)

end Checks

/-! ## Retries -/

theorem toFloat_default : ∀ t ∈ ({} : RetryPolicy).timeouts, ∃ x, t.toFloat = .ok x := by
  intro t member
  simp only [List.mem_cons, List.not_mem_nil, or_false] at member
  rcases member with rfl | rfl | rfl <;> exact ⟨_, rfl⟩

/-- The time limits that are read are doubles. -/
theorem toFloat_of_readTimeouts {entries : Mapping} {timeouts : List Number}
    (accepted : readTimeouts entries = .ok timeouts) : ∀ t ∈ timeouts, ∃ x, t.toFloat = .ok x := by
  unfold readTimeouts at accepted
  split at accepted
  · cases accepted
    exact toFloat_default
  · cases accepted
    exact toFloat_default
  · obtain ⟨seconds, -, accepted⟩ := exists_of_bind_eq_ok accepted
    cases accepted
    intro t member
    obtain ⟨x, -, rfl⟩ := List.mem_map.mp member
    exact ⟨x, rfl⟩

theorem fault?_of_checked {p q : RetryPolicy}
    (accepted : p.checked.mapError Fault.retry = .ok q) : q = p ∧ q.fault? = none := by
  have passed := eq_ok_of_mapError_eq_ok accepted
  unfold RetryPolicy.checked at passed
  split at passed
  · cases passed
  · rename_i sound
    cases passed
    exact ⟨rfl, sound⟩

/-- Retry settings that are read are sound. -/
theorem sound_of_readRetry {p : RetryPolicy} (accepted : readRetry root = .ok p) : p.Sound := by
  obtain ⟨_, -, accepted⟩ := exists_of_bind_eq_ok accepted
  obtain ⟨timeouts, timeoutsRead, accepted⟩ := exists_of_bind_eq_ok accepted
  obtain ⟨_, -, accepted⟩ := exists_of_bind_eq_ok accepted
  obtain ⟨_, -, accepted⟩ := exists_of_bind_eq_ok accepted
  obtain ⟨_, -, accepted⟩ := exists_of_bind_eq_ok accepted
  obtain ⟨_, -, accepted⟩ := exists_of_bind_eq_ok accepted
  obtain ⟨_, -, accepted⟩ := exists_of_bind_eq_ok accepted
  obtain ⟨rfl, sound⟩ := fault?_of_checked accepted
  exact ⟨sound, toFloat_of_readTimeouts timeoutsRead⟩

end Config

end Bazaar
