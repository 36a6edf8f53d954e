import Bazaar.Entries
import Mathlib.Data.List.Basic

/-!
# Entries by key

What is found after an insertion when keys of different kinds may count as one.  Counting as one has
to carry over from key to key; a key that does not count as itself is never found again.
-/

namespace Bazaar.Keyed

section

variable {same : κ → κ → Bool} {key : κ} {value : α} {entries : List (κ × α)}

/-- Inserting a key behind entries without it. -/
theorem insert_of_find?_eq_none (absent : find? same key entries = none) (value : α) :
    insert same key value entries = entries ++ [(key, value)] := by
  induction entries with
  | nil => rfl
  | cons entry rest ih =>
      rw [find?] at absent
      split at absent
      · cases absent
      · rename_i differs
        rw [insert, if_neg differs, ih absent, List.cons_append]

/-- Inserting what is there already. -/
theorem insert_of_find?_eq_some (found : find? same key entries = some value) :
    insert same key value entries = entries := by
  induction entries with
  | nil => cases found
  | cons entry rest ih =>
      rw [find?] at found
      rw [insert]
      split at found
      · rename_i own
        cases found
        exact if_pos own
      · rename_i differs
        rw [if_neg differs, ih found]

/-- A key that is there keeps its place. -/
theorem map_fst_insert_of_find?_eq_some {old : α} (found : find? same key entries = some old)
    (value : α) : (insert same key value entries).map Prod.fst = entries.map Prod.fst := by
  induction entries with
  | nil => cases found
  | cons entry rest ih =>
      rw [find?] at found
      rw [insert]
      split at found
      · rename_i own
        rw [if_pos own]
        rfl
      · rename_i differs
        rw [if_neg differs, List.map_cons, List.map_cons, ih found]

theorem forall_keys_insert {isKey : κ → Prop} (keys : ∀ entry ∈ entries, isKey entry.1)
    (own : isKey key) (value : α) : ∀ entry ∈ insert same key value entries, isKey entry.1 := by
  induction entries with
  | nil => simpa [insert] using own
  | cons entry rest ih =>
      rw [List.forall_mem_cons] at keys
      rw [insert]
      split
      · exact List.forall_mem_cons.mpr keys
      · exact List.forall_mem_cons.mpr ⟨keys.1, ih keys.2⟩

theorem exists_mem_of_find?_eq_some (found : find? same key entries = some value) :
    ∃ k, (k, value) ∈ entries ∧ same k key = true := by
  induction entries with
  | nil => cases found
  | cons entry rest ih =>
      rw [find?] at found
      split at found
      · rename_i own
        cases found
        exact ⟨entry.1, List.mem_cons_self, own⟩
      · obtain ⟨k, member, own⟩ := ih found
        exact ⟨k, List.mem_cons_of_mem entry member, own⟩

theorem find?_eq_none_iff :
    find? same key entries = none ↔ ∀ entry ∈ entries, same entry.1 key = false := by
  induction entries with
  | nil => simp [find?]
  | cons entry rest ih =>
      cases own : same entry.1 key <;> simp [find?, own, ih]

/-- An entry is found under its own key if no key in front counts as it. -/
theorem find?_of_mem
    (distinct : entries.Pairwise fun entry entry' => same entry.1 entry'.1 = false)
    (reflexive : same key key = true) (member : (key, value) ∈ entries) :
    find? same key entries = some value := by
  induction entries with
  | nil => cases member
  | cons entry rest ih =>
      rw [List.pairwise_cons] at distinct
      rw [find?]
      rcases List.mem_cons.mp member with rfl | later
      · exact if_pos reflexive
      · rw [if_neg (by simp [distinct.1 _ later]), ih distinct.2 later]

end

/-! ## Keys that count as one -/

/-- Counting as one carries over among the keys of a kind. -/
structure Coherent (same : κ → κ → Bool) (isKey : κ → Prop) : Prop where
  symm : ∀ {a b}, isKey a → same a b = true → same b a = true
  trans : ∀ {a b c}, same a b = true → same b c = true → same a c = true

section

variable {same : κ → κ → Bool} {isKey : κ → Prop} (coherent : Coherent same isKey)

include coherent

theorem Coherent.same_congr {a b : κ} (key : isKey a) (one : same a b = true) (c : κ) :
    same a c = same b c := by
  rw [Bool.eq_iff_iff]
  constructor
  · exact coherent.trans (coherent.symm key one)
  · exact coherent.trans one

/-- Under keys that count as one the same is found. -/
theorem Coherent.find?_congr {a b : κ} (key : isKey a) (one : same a b = true)
    (entries : List (κ × α)) : find? same a entries = find? same b entries := by
  induction entries with
  | nil => rfl
  | cons entry rest ih =>
      have congr : same entry.1 a = same entry.1 b := by
        rw [Bool.eq_iff_iff]
        constructor
        · exact fun own => coherent.trans own one
        · exact fun own => coherent.trans own (coherent.symm key one)
      rw [find?, find?, congr, ih]

/-- What is found after an insertion. -/
theorem Coherent.find?_insert {entries : List (κ × α)} {key other : κ} (value : α)
    (keys : ∀ entry ∈ entries, isKey entry.1) (isOther : isKey key) :
    find? same other (insert same key value entries) =
      if same key other then some value else find? same other entries := by
  induction entries with
  | nil => rfl
  | cons entry rest ih =>
      rw [List.forall_mem_cons] at keys
      rw [insert]
      split
      · rename_i own
        have congr := coherent.same_congr keys.1 own other
        rw [find?, find?, congr]
        split <;> rfl
      · rename_i differs
        rw [find?, find?, ih keys.2]
        split
        · rename_i own
          split
          · rename_i own'
            exact absurd (coherent.trans own (coherent.symm isOther own')) differs
          · rfl
        · rfl

end

end Bazaar.Keyed
