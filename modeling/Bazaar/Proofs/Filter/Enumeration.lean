import Bazaar.Platform.Usual
import Bazaar.Proofs.Filter.Malformed

/-!
# Sets of alternatives

A set has no order of its own, so its items may be listed in any.  Its group of alternatives is the
same for all of them: one term for each item, in the order of the texts, also where different items
have one text.
-/

namespace Bazaar.Filter

/-- A value is a set of some items, listed in any order. -/
def Enumerates (items : List Value) (v : Value) : Prop :=
  ∃ listed : List Value, listed.Perm items ∧ (v = .set listed ∨ v = .frozenSet listed)

/-- The order in which the items of a set are listed does not show in the order of their texts. -/
theorem sortedTexts_congr {items items' : List Value} (same : items.Perm items') :
    sortedTexts items = sortedTexts items' := by
  rw [sortedTexts_eq, sortedTexts_eq]
  apply Text.eq_sorted_of_perm (Text.sorted_pairwise_le _)
  exact (Text.sorted_perm _).trans (same.map Value.text)

theorem digitsOfItems_congr {items items' : List Value} (same : items.Perm items') :
    Value.digitsOfItems items = Value.digitsOfItems items' := by
  induction same with
  | nil => rfl
  | cons v _ ih => rw [Value.digitsOfItems, Value.digitsOfItems, ih]
  | swap v w items =>
      simp only [Value.digitsOfItems]
      exact Nat.max_left_comm _ _ _
  | trans _ _ first second => exact first.trans second

theorem Enumerates.entryDigits_eq {items : List Value} {v : Value}
    (enumerates : Enumerates items v) (key : Value) :
    entryDigits key v = max key.digits (Value.digitsOfItems items) := by
  obtain ⟨listed, same, isSet⟩ := enumerates
  rw [← digitsOfItems_congr same]
  rcases isSet with rfl | rfl <;> rfl

section

variable [Platform]

/-- The group of a set has a term for each item, whichever item comes first. -/
theorem Enumerates.ofEntry?_eq {items : List Value} {v : Value} (enumerates : Enumerates items v)
    (some_item : items ≠ []) (key : String) :
    Criterion.ofEntry? key v =
      (Value.checkTexts items).map fun _ => some (.anyOf key (sortedTexts items)) := by
  obtain ⟨listed, same, isSet⟩ := enumerates
  have group : Criterion.ofEntry? key v =
      (Value.checkTexts listed).map fun _ => Criterion.ofTexts? key (sortedTexts listed) := by
    rcases isSet with rfl | rfl <;> rfl
  have some_text : (sortedTexts items).isEmpty = false := by
    rw [List.isEmpty_eq_false_iff, Ne, sortedTexts_eq_nil_iff]
    exact some_item
  rw [group, sortedTexts_congr same, Value.checkTexts, digitsOfItems_congr same, ← Value.checkTexts,
    Criterion.ofTexts?, some_text]
  rfl

/-- All sets of the same items, at least one, have one group of alternatives: a term for each item,
with the texts in order.  No filter with such a set depends on how its items are listed.  The group
exists unless an integer among the items has more digits than the platform writes, and then every
listing is refused alike. -/
theorem compile_of_enumerates (key : Value) {items : List Value} (some_item : items ≠ []) :
    ∃ texts : List String,
      texts.Pairwise (· ≤ ·) ∧ texts.Perm (items.map Value.text) ∧
      ∀ v, Enumerates items v →
        (Platform.Allows (Value.digitsOfItems items) →
          Criterion.ofEntry? key.text v = .ok (some (.anyOf key.text texts))) ∧
        (Platform.Allows (max key.digits (Value.digitsOfItems items)) →
          compile [(key, v)] =
            .ok (String.ofList ('(' :: alternatives key.text texts ++ [')']))) ∧
        (∀ limit, Platform.digitLimit = some limit →
          limit.val < max key.digits (Value.digitsOfItems items) →
          compile [(key, v)] = .error (.writing limit.val)) ∧
        ∀ (v' : Value) (front back : Mapping), Enumerates items v' →
          compile (front ++ (key, v) :: back) = compile (front ++ (key, v') :: back) := by
  refine ⟨sortedTexts items, ?_, ?_, fun v enumerates => ?_⟩
  · rw [sortedTexts_eq]
    exact Text.sorted_pairwise_le _
  · rw [sortedTexts_eq]
    exact Text.sorted_perm _
  have group := enumerates.ofEntry?_eq some_item key.text
  have written (allows : Platform.Allows (Value.digitsOfItems items)) :
      Criterion.ofEntry? key.text v = .ok (some (.anyOf key.text (sortedTexts items))) := by
    rw [group, checkTexts_of_allows allows]
    rfl
  refine ⟨written, fun allows => ?_, fun limit given above => ?_, fun v' front back enumerates' => ?_⟩
  · obtain ⟨keyAllows, itemsAllow⟩ := Platform.allows_max_iff.mp allows
    rw [compile, criteria, ofPair?_of_allows keyAllows, written itemsAllow]
    rfl
  · rw [← enumerates.entryDigits_eq key] at above
    have stops := ofPair?_eq_error_iff.mpr (.tooLong (e := (key, v)) given above)
    rw [compile, criteria, stops]
    rfl
  · have same : criteria ((key, v) :: back) = criteria ((key, v') :: back) := by
      rw [criteria, criteria, Criterion.ofPair?, Criterion.ofPair?]
      cases key.write with
      | error fault => rfl
      | ok name =>
          have entry : Criterion.ofEntry? name v = Criterion.ofEntry? name v' := by
            rw [enumerates.ofEntry?_eq some_item, enumerates'.ofEntry?_eq some_item]
          simp only [bind, Except.bind, entry]
    rw [compile, compile, criteria_append_congr same front]

end

/-- A number and a text that are written alike both have a term of their own. -/
theorem compile_of_enumerates_of_alike_items :
    letI := Platform.usual
    let items : List Value := [.str "b", .int 1, .null, .str "1"]
    items ≠ [] ∧ Enumerates items (.set items) ∧ Enumerates items (.frozenSet items.reverse) ∧
    compile [(.str "tag", .set items)] =
      .ok "(tag:\"1\" OR tag:\"1\" OR tag:\"None\" OR tag:\"b\")" ∧
    compile [(.str "tag", .frozenSet items.reverse)] = compile [(.str "tag", .set items)] := by
  let _ := Platform.usual
  intro items
  have some_item : items ≠ [] := List.cons_ne_nil _ _
  have whole : Enumerates items (.set items) := ⟨items, .refl _, .inl rfl⟩
  have turned : Enumerates items (.frozenSet items.reverse) :=
    ⟨items.reverse, items.reverse_perm, .inr rfl⟩
  obtain ⟨texts, ordered, perm, group⟩ := compile_of_enumerates (.str "tag") some_item
  have written : texts = ["1", "1", "None", "b"] := by
    have same : (items.map Value.text).Perm ["1", "1", "None", "b"] := by decide
    exact (perm.trans same).eq_of_pairwise (fun _ _ _ _ => le_antisymm) ordered (by decide)
  obtain ⟨-, compiled, -, elsewhere⟩ := group _ whole
  rw [written] at compiled
  exact ⟨some_item, whole, turned, compiled (Platform.allows_of_le (by decide)),
    (elsewhere _ [] [] turned).symm⟩

end Bazaar.Filter
