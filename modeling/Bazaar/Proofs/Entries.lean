import Bazaar.Proofs.Keyed
import Mathlib.Data.List.Induction
import Mathlib.Data.List.Nodup

/-!
# First occurrences

What is left of a list when every value stands once, in its first place; what entries hold after an
insertion, and what entries from pairs with one value are: their names in this order.
-/

namespace Bazaar

/-- The values of a list that a property selects, each once, in the order in which they first
occur. -/
structure FirstOccurrences [DecidableEq α] (selected : α → Prop) (xs distinct : List α) : Prop where
  mem_iff : ∀ x, x ∈ distinct ↔ x ∈ xs ∧ selected x
  ordered : distinct.Pairwise fun x y => xs.idxOf x < xs.idxOf y

section

variable [DecidableEq α]

theorem FirstOccurrences.nodup {selected : α → Prop} {xs distinct : List α}
    (firsts : FirstOccurrences selected xs distinct) : distinct.Nodup := by
  apply firsts.ordered.imp
  rintro x y before rfl
  exact Nat.lt_irrefl _ before

/-- Of the values that are selected, some may be selected further. -/
theorem FirstOccurrences.filter {selected : α → Prop} {xs distinct : List α}
    (firsts : FirstOccurrences selected xs distinct) {p : α → Bool} {narrower : α → Prop}
    (decides : ∀ x ∈ distinct, p x = true ↔ narrower x) :
    FirstOccurrences (fun x => selected x ∧ narrower x) xs (distinct.filter p) where
  mem_iff x := by
    rw [List.mem_filter, ← and_assoc, ← firsts.mem_iff]
    exact and_congr_right (decides x)
  ordered := firsts.ordered.filter p

/-- A value in front changes nothing about the order of others. -/
theorem pairwise_idxOf_cons {a : α} {xs distinct : List α} (absent : ∀ x ∈ distinct, x ≠ a)
    (ordered : distinct.Pairwise fun x y => xs.idxOf x < xs.idxOf y) :
    distinct.Pairwise fun x y => (a :: xs).idxOf x < (a :: xs).idxOf y := by
  apply ordered.imp_of_mem
  intro x y memberX memberY before
  rw [List.idxOf_cons_ne xs (absent x memberX).symm, List.idxOf_cons_ne xs (absent y memberY).symm]
  exact Nat.succ_lt_succ before

theorem pairwise_idxOf_eraseDups (p : α → Bool) (xs : List α) :
    (xs.filter p).eraseDups.Pairwise fun x y => xs.idxOf x < xs.idxOf y := by
  -- A value that is met is selected no longer, so `p` changes along the list.
  induction xs generalizing p with
  | nil => exact List.Pairwise.nil
  | cons a xs ih =>
      by_cases selected : p a = true
      · rw [List.filter_cons_of_pos selected, List.eraseDups_cons, List.filter_filter]
        have absent : ∀ x ∈ (xs.filter fun x => !x == a && p x).eraseDups, x ≠ a := by
          intro x member same
          simp [same] at member
        refine List.pairwise_cons.mpr ⟨?_, pairwise_idxOf_cons absent (ih _)⟩
        intro x member
        rw [List.idxOf_cons_self, List.idxOf_cons_ne xs (absent x member).symm]
        exact Nat.succ_pos _
      · rw [List.filter_cons_of_neg selected]
        apply pairwise_idxOf_cons _ (ih p)
        intro x member same
        rw [same, List.mem_eraseDups, List.mem_filter] at member
        exact selected member.2

theorem firstOccurrences_eraseDups {selected : α → Prop} {p : α → Bool}
    (decides : ∀ x, p x = true ↔ selected x) (xs : List α) :
    FirstOccurrences selected xs (xs.filter p).eraseDups where
  mem_iff x := by rw [List.mem_eraseDups, List.mem_filter, decides]
  ordered := pairwise_idxOf_eraseDups p xs

/-- A list without repetitions has none to erase. -/
theorem eraseDups_of_nodup {xs : List α} (distinct : xs.Nodup) : xs.eraseDups = xs := by
  induction xs with
  | nil => rfl
  | cons a xs ih =>
      obtain ⟨absent, rest⟩ := List.nodup_cons.mp distinct
      have others : xs.filter (fun x => !x == a) = xs := by
        refine List.filter_eq_self.mpr fun x member => ?_
        have apart : x ≠ a := fun same => absent (same ▸ member)
        simpa using apart
      rw [List.eraseDups_cons, others, ih rest]

end

namespace Entries

variable {ν : Type} [DecidableEq ν] {entries : Entries α ν} {name : ν} {value : α}

/-- What is found under a name stands among the entries. -/
theorem mem_of_get? (found : entries.get? name = some value) : (name, value) ∈ entries := by
  unfold get? at found
  induction entries with
  | nil => cases found
  | cons entry rest ih =>
      rw [Keyed.find?] at found
      split at found
      · rename_i own
        obtain rfl : entry.1 = name := beq_iff_eq.mp own
        cases found
        exact List.mem_cons_self
      · exact List.mem_cons_of_mem _ (ih found)

/-! ## Insertions -/

theorem insert_nil (name : ν) (value : α) : insert [] name value = [(name, value)] :=
  rfl

theorem insert_cons (entry : ν × α) (rest : Entries α ν) (name : ν) (value : α) :
    insert (entry :: rest) name value =
      if entry.1 = name then (name, value) :: rest else entry :: rest.insert name value := by
  unfold insert
  rw [Keyed.insert]
  by_cases own : entry.1 = name <;> simp [own]

/-- A name that is not there yet is set behind the others. -/
theorem insert_of_not_mem (absent : name ∉ entries.map Prod.fst) (value : α) :
    entries.insert name value = entries ++ [(name, value)] := by
  apply Keyed.insert_of_find?_eq_none
  by_contra found
  obtain ⟨v, found⟩ := Option.ne_none_iff_exists'.mp found
  exact absent (List.mem_map_of_mem (mem_of_get? found))

theorem names_insert (entries : Entries α ν) (name : ν) (value : α) :
    (entries.insert name value).map Prod.fst =
      if name ∈ entries.map Prod.fst then entries.map Prod.fst
      else entries.map Prod.fst ++ [name] := by
  induction entries with
  | nil => rfl
  | cons entry rest ih =>
      rw [insert_cons]
      by_cases own : entry.1 = name
      · simp [own]
      · have apart : name ≠ entry.1 := Ne.symm own
        simp only [if_neg own, List.map_cons, ih, List.mem_cons, apart, false_or]
        split <;> rfl

/-- Setting a name keeps the names apart. -/
theorem nodup_insert (distinct : (entries.map Prod.fst).Nodup) (value : α) :
    ((entries.insert name value).map Prod.fst).Nodup := by
  rw [names_insert]
  split
  · exact distinct
  · rename_i absent
    rw [← List.concat_eq_append]
    exact distinct.concat absent

/-- What is found after a name was set was there before, or it is the new value. -/
theorem mem_insert {entry : ν × α} (member : entry ∈ entries.insert name value) :
    entry ∈ entries ∨ entry.2 = value := by
  induction entries with
  | nil =>
      obtain rfl := List.mem_singleton.mp member
      exact .inr rfl
  | cons first rest ih =>
      rw [insert_cons] at member
      split at member
      · rcases List.mem_cons.mp member with rfl | other
        · exact .inr rfl
        · exact .inl (List.mem_cons_of_mem first other)
      · rcases List.mem_cons.mp member with rfl | other
        · exact .inl List.mem_cons_self
        · exact (ih other).imp (List.mem_cons_of_mem first) id

/-! ## Entries with one value -/

/-- Inserting among entries that all have the value to insert. -/
theorem insert_const (name : ν) (value : α) (names : List ν) :
    Entries.insert (names.map fun n => (n, value)) name value =
      (if name ∈ names then names else names ++ [name]).map fun n => (n, value) := by
  induction names with
  | nil => rfl
  | cons n names ih =>
      rw [List.map_cons, insert_cons]
      by_cases own : n = name
      · simp [own]
      · have apart : name ≠ n := Ne.symm own
        simp only [if_neg own, ih, List.mem_cons, apart, false_or]
        split <;> rfl

/-- Entries from pairs that all have one value. -/
theorem ofPairs_const (value : α) (names : List ν) :
    Entries.ofPairs (names.map fun n => (n, value)) =
      names.eraseDups.map fun n => (n, value) := by
  unfold Entries.ofPairs Keyed.ofPairs
  induction names using List.reverseRecOn with
  | nil => rfl
  | append_singleton names name ih =>
      have inserted := insert_const name value names.eraseDups
      unfold Entries.insert at inserted
      rw [List.map_append, List.foldl_append, ih, List.eraseDups_append]
      refine inserted.trans (congrArg _ ?_)
      by_cases known : name ∈ names
      · simp [known, List.removeAll]
      · simp [known, List.removeAll, List.eraseDups_cons]

end Entries

end Bazaar
