import Bazaar.Json.Reader
import Bazaar.Json.Writer
import Bazaar.Proofs.Entries
import Bazaar.Proofs.Platform
import Bazaar.Proofs.Text.Phrase

/-!
# Parts of documents

What lies within a document and how deep it goes.  No object within a document that was read repeats
a name: a name that comes again replaces the value that it had.  A document is written without
halves of characters exactly if no text within it has any.
-/

namespace Bazaar.Json

/-- A value is a document or lies within it. -/
inductive Within (v : Json) : Json → Prop
  | self : Within v v
  | item {items : List Json} {w : Json} (member : w ∈ items) (inside : Within v w) :
    Within v (.arr items)
  | member {members : List (Phrase × Json)} {name : Phrase} {w : Json}
    (member : (name, w) ∈ members) (inside : Within v w) : Within v (.obj members)

/-- No object within a document repeats a name. -/
def HasDistinctNames (v : Json) : Prop :=
  ∀ members, Within (.obj members) v → (members.map Prod.fst).Nodup

/-- No double within a document is undefined. -/
def IsDefined (v : Json) : Prop :=
  ∀ x, Within (.float x) v → Decimal.read x ≠ .nan

/-- A document that can be written and read again. -/
structure IsPlain (v : Json) : Prop where
  distinct : HasDistinctNames v
  defined : IsDefined v

section Within

variable {u v w : Json} {items : List Json} {members : Members} {name : Phrase}

theorem Within.trans (inner : Within u v) (outer : Within v w) : Within u w := by
  induction outer with
  | self => exact inner
  | item member inside ih => exact .item member ih
  | member member inside ih => exact .member member ih

theorem IsPlain.of_within (plain : IsPlain w) (inside : Within v w) : IsPlain v :=
  ⟨fun members within => plain.distinct members (within.trans inside),
    fun x within => plain.defined x (within.trans inside)⟩

theorem hasDistinctNames_arr (each : ∀ v ∈ items, HasDistinctNames v) :
    HasDistinctNames (.arr items) := by
  intro members inside
  cases inside with
  | item member inside => exact each _ member members inside

theorem hasDistinctNames_obj (distinct : (members.map Prod.fst).Nodup)
    (each : ∀ m ∈ members, HasDistinctNames m.2) : HasDistinctNames (.obj members) := by
  intro ms inside
  cases inside with
  | self => exact distinct
  | member member inside => exact each _ member ms inside

theorem isPlain_arr (each : ∀ v ∈ items, IsPlain v) : IsPlain (.arr items) := by
  refine ⟨hasDistinctNames_arr fun v member => (each v member).distinct, ?_⟩
  intro x inside
  cases inside with
  | item member inside => exact (each _ member).defined x inside

theorem isPlain_obj (distinct : (members.map Prod.fst).Nodup)
    (each : ∀ m ∈ members, IsPlain m.2) : IsPlain (.obj members) := by
  refine ⟨hasDistinctNames_obj distinct fun m member => (each m member).distinct, ?_⟩
  intro x inside
  cases inside with
  | member member inside => exact (each _ member).defined x inside

/-- A value with nothing within it. -/
def IsLeaf : Json → Prop
  | .arr _ => False
  | .obj _ => False
  | _ => True

theorem IsLeaf.eq_of_within (leaf : IsLeaf w) (inside : Within v w) : v = w := by
  cases inside with
  | self => rfl
  | item => cases leaf
  | member => cases leaf

theorem IsLeaf.hasDistinctNames (leaf : IsLeaf v) : HasDistinctNames v := by
  intro members inside
  have same := leaf.eq_of_within inside
  subst same
  cases leaf

theorem IsPlain.of_isLeaf (leaf : IsLeaf v) (defined : ∀ x, v = .float x → Decimal.read x ≠ .nan) :
    IsPlain v :=
  ⟨leaf.hasDistinctNames, fun x inside => defined x (leaf.eq_of_within inside).symm⟩

end Within

/-! ## Depth and digits -/

section Measures

variable {items : List Json} {members : Members} {room : Nat}

theorem depthOfItems_le_iff : depthOfItems items ≤ room ↔ ∀ x ∈ items, depth x ≤ room := by
  induction items with
  | nil => simp [depthOfItems]
  | cons x xs ih => rw [depthOfItems, Nat.max_le, ih, List.forall_mem_cons]

theorem depthOfMembers_le_iff : depthOfMembers members ≤ room ↔ ∀ m ∈ members, depth m.2 ≤ room := by
  induction members with
  | nil => simp [depthOfMembers]
  | cons m ms ih => rw [depthOfMembers, Nat.max_le, ih, List.forall_mem_cons]

variable [Platform]

theorem allows_mostDigitsOfItems_iff : Platform.Allows (mostDigitsOfItems items) ↔
    ∀ x ∈ items, Platform.Allows (mostDigits x) := by
  induction items with
  | nil => simp [mostDigitsOfItems, Platform.allows_of_le]
  | cons x xs ih => rw [mostDigitsOfItems, Platform.allows_max_iff, ih, List.forall_mem_cons]

theorem allows_mostDigitsOfMembers_iff : Platform.Allows (mostDigitsOfMembers members) ↔
    ∀ m ∈ members, Platform.Allows (mostDigits m.2) := by
  induction members with
  | nil => simp [mostDigitsOfMembers, Platform.allows_of_le]
  | cons m ms ih => rw [mostDigitsOfMembers, Platform.allows_max_iff, ih, List.forall_mem_cons]

end Measures

/-! ## Halves -/

/-- No text within a document, and no name, has halves of characters. -/
structure HasWholeTexts (v : Json) : Prop where
  texts : ∀ s, Within (.str s) v → s.IsWhole
  names : ∀ members, Within (.obj members) v → ∀ m ∈ members, m.1.IsWhole

section Halves

variable {items : List Json} {members : Members}

theorem hasWholeTexts_arr_iff : HasWholeTexts (.arr items) ↔ ∀ v ∈ items, HasWholeTexts v := by
  constructor
  · intro whole v member
    exact ⟨fun s inside => whole.texts s (.item member inside),
      fun ms inside => whole.names ms (.item member inside)⟩
  · intro each
    constructor
    · intro s inside
      cases inside with
      | item member inside => exact (each _ member).texts s inside
    · intro ms inside
      cases inside with
      | item member inside => exact (each _ member).names ms inside

theorem hasWholeTexts_obj_iff :
    HasWholeTexts (.obj members) ↔ ∀ m ∈ members, m.1.IsWhole ∧ HasWholeTexts m.2 := by
  constructor
  · intro whole m member
    exact ⟨whole.names members .self m member,
      fun s inside => whole.texts s (.member member inside),
      fun ms inside => whole.names ms (.member member inside)⟩
  · intro each
    constructor
    · intro s inside
      cases inside with
      | member member inside => exact (each _ member).2.texts s inside
    · intro ms inside
      cases inside with
      | self => exact fun m member => (each m member).1
      | member member inside => exact (each _ member).2.names ms inside

theorem isWhole_quote_iff {s : Phrase} : (quote s).IsWhole ↔ s.IsWhole := by
  have signs : Phrase.IsWhole (s.flatMap stringSign) ↔ s.IsWhole := by
    induction s with
    | nil => rfl
    | cons sign s ih =>
        rw [List.flatMap_cons, Phrase.isWhole_append, Phrase.isWhole_cons, ih]
        refine and_congr_left fun _ => ?_
        cases sign with
        | char c => exact iff_of_true (Phrase.isWhole_ofChars _) rfl
        | half h => simp [stringSign]
  rw [quote, List.cons_append, Phrase.isWhole_cons, Phrase.isWhole_append, signs]
  simp

variable (indent : Option Nat) (depth : Nat)

theorem isWhole_writtenItems_iff : (writtenItems indent depth items).IsWhole ↔
    ∀ v ∈ items, (written indent depth v).IsWhole := by
  induction items with
  | nil => simp [writtenItems]
  | cons v rest ih => simp [writtenItems, Phrase.isWhole_ofChars, ih]

theorem isWhole_writtenMembers_iff : (writtenMembers indent depth members).IsWhole ↔
    ∀ m ∈ members, m.1.IsWhole ∧ (written indent depth m.2).IsWhole := by
  induction members with
  | nil => simp [writtenMembers]
  | cons m rest ih =>
      simp [writtenMembers, Phrase.isWhole_ofChars, isWhole_quote_iff, ih, and_assoc]

theorem isWhole_written_arr_iff : (written indent depth (.arr items)).IsWhole ↔
    ∀ v ∈ items, (written indent (depth + 1) v).IsWhole := by
  cases items with
  | nil => exact iff_of_true (Phrase.isWhole_ofChars _) nofun
  | cons v rest =>
      simp [written, Phrase.isWhole_ofChars, isWhole_writtenItems_iff]

theorem isWhole_written_obj_iff : (written indent depth (.obj members)).IsWhole ↔
    ∀ m ∈ members, m.1.IsWhole ∧ (written indent (depth + 1) m.2).IsWhole := by
  cases members with
  | nil => exact iff_of_true (Phrase.isWhole_ofChars _) nofun
  | cons m rest =>
      simp [written, Phrase.isWhole_ofChars, isWhole_quote_iff, isWhole_writtenMembers_iff,
        and_assoc]

end Halves

/-- A document is written without halves exactly if no text within it has any. -/
theorem isWhole_written_iff (indent : Option Nat) (depth : Nat) (v : Json) :
    (written indent depth v).IsWhole ↔ HasWholeTexts v := by
  have leaf {w : Json} (isLeaf : IsLeaf w) (noText : ∀ s, w ≠ .str s) : HasWholeTexts w := by
    constructor
    · intro s inside
      exact absurd (isLeaf.eq_of_within inside).symm (noText s)
    · intro ms inside
      obtain rfl := isLeaf.eq_of_within inside
      cases isLeaf
  match v with
  | .null => exact iff_of_true (Phrase.isWhole_ofChars _) (leaf trivial nofun)
  | .bool b => exact iff_of_true (by cases b <;> exact Phrase.isWhole_ofChars _) (leaf trivial nofun)
  | .int n => exact iff_of_true (Phrase.isWhole_ofChars _) (leaf trivial nofun)
  | .float x => exact iff_of_true (Phrase.isWhole_ofChars _) (leaf trivial nofun)
  | .str s =>
      refine isWhole_quote_iff.trans ⟨fun whole => ⟨?_, nofun⟩, fun whole => whole.texts s .self⟩
      rintro _ ⟨⟩
      exact whole
  | .arr items =>
      rw [isWhole_written_arr_iff, hasWholeTexts_arr_iff]
      exact forall₂_congr fun w member => isWhole_written_iff indent (depth + 1) w
  | .obj members =>
      rw [isWhole_written_obj_iff, hasWholeTexts_obj_iff]
      exact forall₂_congr fun m member =>
        and_congr_right fun _ => isWhole_written_iff indent (depth + 1) m.2
termination_by sizeOf v
decreasing_by
  · have smaller := List.sizeOf_lt_of_mem member
    simp only [Json.arr.sizeOf_spec]
    omega
  · have smaller := List.sizeOf_lt_of_mem member
    obtain ⟨name, w⟩ := m
    simp only [Json.obj.sizeOf_spec, Prod.mk.sizeOf_spec] at smaller ⊢
    omega

/-! ## What is read -/

theorem isLeaf_of_number? {negative : Bool} {cs rest : List Char} {v : Json}
    (read : number? negative cs = some (v, rest)) : IsLeaf v := by
  unfold number? at read
  obtain ⟨⟨whole, tail⟩, -, read⟩ := Option.bind_eq_some_iff.mp read
  dsimp only at read
  split at read <;> cases read <;> trivial

theorem isLeaf_of_scalar? {cs rest : List Char} {v : Json} (read : scalar? cs = some (v, rest)) :
    IsLeaf v := by
  unfold scalar? at read
  split at read
  · rename_i found word
    cases read
    obtain ⟨⟨name, w⟩, member, found⟩ := List.exists_of_findSome?_eq_some word
    obtain ⟨tail, -, same⟩ := Option.map_eq_some_iff.mp found
    cases same
    have leaves : ∀ entry ∈ words, IsLeaf entry.2 := by simp [words, IsLeaf]
    exact leaves _ member
  · split at read <;> exact isLeaf_of_number? read

variable [Platform]

theorem isLeaf_of_scalar {p rest : Phrase} {v : Json} (read : scalar p = .ok (v, rest)) :
    IsLeaf v := by
  unfold scalar at read
  dsimp only at read
  split at read
  · cases read
  · rename_i found
    split at read
    · cases read
    · cases read
      exact isLeaf_of_scalar? found

/-- What the readers give with so much fuel has distinct names. -/
structure ReadDistinct (fuel : Nat) : Prop where
  value : ∀ {room cs v rest}, Json.value fuel room cs = .ok (v, rest) → HasDistinctNames v
  items : ∀ {room cs xs rest}, Json.items fuel room cs = .ok (xs, rest) →
    ∀ x ∈ xs, HasDistinctNames x
  members : ∀ {room before cs ms rest}, Json.members fuel room before cs = .ok (ms, rest) →
    (before.map Prod.fst).Nodup → (∀ m ∈ before, HasDistinctNames m.2) →
      (ms.map Prod.fst).Nodup ∧ ∀ m ∈ ms, HasDistinctNames m.2

section Readers

variable {fuel room : Nat} {cs rest : Phrase}

theorem ReadDistinct.value_succ (fewer : ReadDistinct fuel) {v : Json}
    (read : Json.value (fuel + 1) room cs = .ok (v, rest)) : HasDistinctNames v := by
  unfold Json.value at read
  split at read
  · obtain ⟨s, -, same⟩ := exists_of_map_eq_ok read
    cases same
    exact IsLeaf.hasDistinctNames trivial
  · split at read
    · cases read
    · split at read
      · cases read
        exact hasDistinctNames_arr (by simp)
      · obtain ⟨xs, found, same⟩ := exists_of_map_eq_ok read
        cases same
        exact hasDistinctNames_arr (fewer.items found)
  · split at read
    · cases read
    · split at read
      · cases read
        exact hasDistinctNames_obj (by simp) (by simp)
      · obtain ⟨ms, found, same⟩ := exists_of_map_eq_ok read
        cases same
        obtain ⟨distinct, each⟩ := fewer.members found (by simp) (by simp)
        exact hasDistinctNames_obj distinct each
  · exact (isLeaf_of_scalar read).hasDistinctNames

theorem ReadDistinct.items_succ (fewer : ReadDistinct fuel) {xs : List Json}
    (read : Json.items (fuel + 1) room cs = .ok (xs, rest)) : ∀ x ∈ xs, HasDistinctNames x := by
  unfold Json.items at read
  obtain ⟨⟨x, behind⟩, first, read⟩ := exists_of_bind_eq_ok read
  have own := fewer.value first
  dsimp only at read
  split at read
  · cases read
    simpa using own
  · obtain ⟨⟨ys, behind'⟩, others, read⟩ := exists_of_bind_eq_ok read
    cases read
    exact List.forall_mem_cons.mpr ⟨own, fewer.items others⟩
  · cases read

theorem ReadDistinct.members_succ (fewer : ReadDistinct fuel) {before ms : Members}
    (read : Json.members (fuel + 1) room before cs = .ok (ms, rest))
    (distinct : (before.map Prod.fst).Nodup) (each : ∀ m ∈ before, HasDistinctNames m.2) :
    (ms.map Prod.fst).Nodup ∧ ∀ m ∈ ms, HasDistinctNames m.2 := by
  unfold Json.members at read
  split at read
  · obtain ⟨⟨name, behind⟩, -, read⟩ := exists_of_bind_eq_ok read
    dsimp only at read
    split at read
    · obtain ⟨⟨v, behind'⟩, first, read⟩ := exists_of_bind_eq_ok read
      have own := fewer.value first
      have distinct' : ((Entries.insert before name v).map Prod.fst).Nodup :=
        Entries.nodup_insert distinct v
      have each' : ∀ m ∈ Entries.insert before name v, HasDistinctNames m.2 := by
        intro m member
        rcases Entries.mem_insert member with old | new
        · exact each m old
        · exact new ▸ own
      dsimp only at read
      split at read
      · cases read
        exact ⟨distinct', each'⟩
      · exact fewer.members read distinct' each'
      · cases read
    · cases read
  · cases read

end Readers

/-- Reading with one more step keeps names apart, so all readers do. -/
theorem readDistinct (fuel : Nat) : ReadDistinct fuel := by
  induction fuel with
  | zero =>
      constructor
      · intro room cs v rest read
        cases read
      · intro room cs xs rest read
        cases read
      · intro room before cs ms rest read
        cases read
  | succ fuel fewer =>
      constructor
      · exact fewer.value_succ
      · exact fewer.items_succ
      · exact fewer.members_succ

/-- A document that was read repeats no name. -/
theorem hasDistinctNames_of_readWithin {room : Nat} {p : Phrase} {v : Json}
    (read : readWithin room p = .ok v) : HasDistinctNames v := by
  unfold readWithin at read
  obtain ⟨⟨w, rest⟩, found, read⟩ := exists_of_bind_eq_ok read
  dsimp only at read
  split at read
  · cases read
    exact (readDistinct _).value found
  · cases read

end Bazaar.Json
