import Bazaar.Proofs.Decimal.Equal
import Bazaar.Proofs.Keyed
import Bazaar.Value.Basic

/-!
# Keys of mappings

Which values can be keys, and that counting as one key carries over among them.  An undefined number
is a key that does not count as itself, so a mapping may hold several; every other key counts as
itself.
-/

namespace Bazaar.Value

mutual

/-- Whether a value can be a key: a list, a set or a mapping cannot.  No member of a frozen set
stands there twice. -/
def IsKey : Value → Prop
  | .list _ | .set _ | .map _ => False
  | .tuple items => AreKeys items
  | .frozenSet items => AreKeys items ∧ items.Pairwise fun a b => sameKey a b = false
  | _ => True

/-- Whether all values of a list can be keys. -/
def AreKeys : List Value → Prop
  | [] => True
  | v :: rest => IsKey v ∧ AreKeys rest

end

theorem areKeys_iff {items : List Value} : AreKeys items ↔ ∀ v ∈ items, v.IsKey := by
  induction items with
  | nil => simp [AreKeys]
  | cons v rest ih => simp [AreKeys, ih]

/-! ## When two values are one key -/

/-- The ways in which two values are one key. -/
inductive Alike : Value → Value → Prop where
  | null : Alike .null .null
  | bytes (bs : List UInt8) : Alike (.bytes bs) (.bytes bs)
  | date (d : Calendar.Date) : Alike (.date d) (.date d)
  | dateTime {t u : Calendar.DateTime} (same : t.same u = true) : Alike (.dateTime t) (.dateTime u)
  | list {as bs : List Value} (same : sameKeys as bs = true) : Alike (.list as) (.list bs)
  | tuple {as bs : List Value} (same : sameKeys as bs = true) : Alike (.tuple as) (.tuple bs)
  | frozenSet {as bs : List Value} (length : as.length = bs.length)
    (among : allAmong as bs = true) : Alike (.frozenSet as) (.frozenSet bs)
  | number {a b : Value} {m n : Number} (first : a.keyNumber? = some m)
    (second : b.keyNumber? = some n) (same : m.same n = true) : Alike a b
  | text {a b : Value} {s : String} (first : a.keyText? = some s)
    (second : b.keyText? = some s) : Alike a b

theorem alike_of_sameKey {a b : Value} (same : sameKey a b = true) : Alike a b := by
  fun_cases sameKey a b with
  | case1 => exact .null
  | case2 bs bs' =>
      obtain rfl : bs = bs' := by simpa [sameKey] using same
      exact .bytes bs
  | case3 d d' =>
      obtain rfl : d = d' := by simpa [sameKey] using same
      exact .date d
  | case4 t u => exact .dateTime (by simpa [sameKey] using same)
  | case5 as bs => exact .list (by simpa [sameKey] using same)
  | case6 as bs => exact .tuple (by simpa [sameKey] using same)
  | case7 as bs =>
      rw [sameKey, Bool.and_eq_true, beq_iff_eq] at same
      exact .frozenSet same.1 same.2
  | case8 a b _ _ _ _ _ _ _ m n second first =>
      rw [sameKey, first, second] at same
      · exact .number first second same
      all_goals assumption
  | case9 a b _ _ _ _ _ _ _ noNumber' noNumber s t second first =>
      rw [sameKey, noNumber, noNumber', first, second] at same
      · obtain rfl : s = t := beq_iff_eq.mp same
        exact .text first second
      all_goals assumption
  | case10 a b _ _ _ _ _ _ _ noNumber' noNumber noTexts =>
      rw [sameKey, noNumber, noNumber'] at same
      · cases second : b.keyText? with
        | none => simp [second] at same
        | some t =>
            cases first : a.keyText? with
            | none => simp [first, second] at same
            | some s => exact (noTexts s t first second).elim
      all_goals assumption
  | case11 =>
      rw [sameKey] at same
      · simp at same
      all_goals assumption

theorem sameKey_of_alike {a b : Value} (alike : Alike a b) : sameKey a b = true := by
  cases alike with
  | null => rfl
  | bytes bs => simp [sameKey]
  | date d => simp [sameKey]
  | dateTime same => simpa [sameKey] using same
  | list same => simpa [sameKey] using same
  | tuple same => simpa [sameKey] using same
  | frozenSet length among => simp [sameKey, length, among]
  | number first second same =>
      cases a <;> simp [keyNumber?] at first <;> cases b <;> simp [keyNumber?] at second <;>
        subst first second <;> simpa [sameKey, keyNumber?] using same
  | text first second =>
      cases a <;> simp [keyText?] at first <;> cases b <;> simp [keyText?] at second <;>
        simp [sameKey, keyText?, keyNumber?, first, second]

/-! ## Members of collections -/

/-- What a key is made of. -/
def parts : Value → List Value
  | .list items | .tuple items | .frozenSet items => items
  | _ => []

/-- Induction over the keys that a key is made of. -/
theorem partsInduction {motive : Value → Prop}
    (step : ∀ v, (∀ part ∈ v.parts, motive part) → motive v) (v : Value) : motive v := by
  apply step v
  intro part member
  have smaller : sizeOf part < sizeOf v := by
    cases v with
    | list items | tuple items | frozenSet items =>
        have within := List.sizeOf_lt_of_mem (show part ∈ items from member)
        simp only [list.sizeOf_spec, tuple.sizeOf_spec, frozenSet.sizeOf_spec]
        omega
    | _ => cases member
  exact partsInduction step part
termination_by sizeOf v

theorem sameKeys_iff {as bs : List Value} :
    sameKeys as bs = true ↔ List.Forall₂ (fun a b => sameKey a b = true) as bs := by
  induction as generalizing bs with
  | nil => cases bs <;> simp [sameKeys]
  | cons a as ih => cases bs <;> simp [sameKeys, ih]

theorem allAmong_iff {as bs : List Value} :
    allAmong as bs = true ↔ ∀ a ∈ as, ∃ b ∈ bs, sameKey a b = true := by
  induction as with
  | nil => simp [allAmong]
  | cons a as ih => simp [allAmong, ih]

/-! ## Counting as one key carries over -/

theorem Alike.number_right {a b : Value} {m : Number} (alike : Alike a b)
    (first : a.keyNumber? = some m) : ∃ n, b.keyNumber? = some n ∧ m.same n = true := by
  cases alike with
  | number first' second same =>
      obtain rfl := Option.some.inj (first'.symm.trans first)
      exact ⟨_, second, same⟩
  | text first' second => cases a <;> simp [keyNumber?] at first <;> simp [keyText?] at first'
  | _ => simp [keyNumber?] at first

theorem Alike.text_right {a b : Value} {s : String} (alike : Alike a b)
    (first : a.keyText? = some s) : b.keyText? = some s := by
  cases alike with
  | number first' second same => cases a <;> simp [keyText?] at first <;> simp [keyNumber?] at first'
  | text first' second =>
      obtain rfl := Option.some.inj (first'.symm.trans first)
      exact second
  | _ => simp [keyText?] at first

theorem sameKeys_trans {as bs cs : List Value}
    (trans : ∀ a ∈ as, ∀ {b c}, sameKey a b = true → sameKey b c = true → sameKey a c = true)
    (one : sameKeys as bs = true) (two : sameKeys bs cs = true) : sameKeys as cs = true := by
  rw [sameKeys_iff] at one two ⊢
  induction one generalizing cs with
  | nil => exact two
  | cons first _ ih =>
      cases two with
      | cons second later =>
          rw [List.forall_mem_cons] at trans
          exact .cons (trans.1 first second) (ih trans.2 later)

theorem allAmong_trans {as bs cs : List Value}
    (trans : ∀ a ∈ as, ∀ {b c}, sameKey a b = true → sameKey b c = true → sameKey a c = true)
    (one : allAmong as bs = true) (two : allAmong bs cs = true) : allAmong as cs = true := by
  rw [allAmong_iff] at one two ⊢
  intro a member
  obtain ⟨b, middle, first⟩ := one a member
  obtain ⟨c, last, second⟩ := two b middle
  exact ⟨c, last, trans a member first second⟩

/-- Values that count as one key with a third one count as one. -/
theorem sameKey_trans {a b c : Value} (one : sameKey a b = true) (two : sameKey b c = true) :
    sameKey a c = true := by
  induction a using partsInduction generalizing b c with
  | step a ih =>
    have second := alike_of_sameKey two
    cases alike_of_sameKey one with
    | null | bytes | date => exact two
    | dateTime same =>
        cases second with
        | dateTime same' =>
            simp only [Calendar.DateTime.same, Bool.and_eq_true, beq_iff_eq] at same same'
            simp [sameKey, Calendar.DateTime.same, same, same']
        | number first | text first => cases first
    | list same =>
        cases second with
        | list same' => exact sameKey_of_alike (.list (sameKeys_trans ih same same'))
        | number first | text first => cases first
    | tuple same =>
        cases second with
        | tuple same' => exact sameKey_of_alike (.tuple (sameKeys_trans ih same same'))
        | number first | text first => cases first
    | frozenSet length among =>
        cases second with
        | frozenSet length' among' =>
            exact sameKey_of_alike
              (.frozenSet (length.trans length') (allAmong_trans ih among among'))
        | number first | text first => cases first
    | number first middle same =>
        obtain ⟨n, last, same'⟩ := second.number_right middle
        exact sameKey_of_alike (.number first last (Number.same_trans same same'))
    | text first middle =>
        exact sameKey_of_alike (.text first (second.text_right middle))

theorem sameKeys_symm {as bs : List Value}
    (symm : ∀ a ∈ as, ∀ {b}, sameKey a b = true → sameKey b a = true)
    (one : sameKeys as bs = true) : sameKeys bs as = true := by
  rw [sameKeys_iff] at one ⊢
  induction one with
  | nil => exact .nil
  | cons first _ ih =>
      rw [List.forall_mem_cons] at symm
      exact .cons (symm.1 first) (ih symm.2)

/-- Where each value of a list has a partner in a list that is no longer, and no two share one,
every partner is taken. -/
theorem exists_partner {partner : α → β → Prop} {as : List α} {bs : List β}
    (apart : as.Pairwise fun a a' => ∀ b, partner a b → ¬ partner a' b)
    (matched : ∀ a ∈ as, ∃ b ∈ bs, partner a b) (length : bs.length ≤ as.length) :
    ∀ b ∈ bs, ∃ a ∈ as, partner a b := by
  induction as generalizing bs with
  | nil =>
      obtain rfl := List.length_eq_zero_iff.mp (Nat.le_zero.mp length)
      simp
  | cons a as ih =>
      rw [List.pairwise_cons] at apart
      rw [List.forall_mem_cons] at matched
      obtain ⟨⟨taken, member, own⟩, others⟩ := matched
      obtain ⟨front, back, rfl⟩ := List.append_of_mem member
      have left : ∀ a' ∈ as, ∃ b ∈ front ++ back, partner a' b := by
        intro a' later
        obtain ⟨b, member', own'⟩ := others a' later
        have other : b ≠ taken := by
          rintro rfl
          exact apart.1 a' later b own own'
        refine ⟨b, ?_, own'⟩
        simpa [other] using member'
      have rest := ih apart.2 left (by simp at length ⊢; omega)
      intro b member'
      by_cases first : b = taken
      · exact ⟨a, List.mem_cons_self, first ▸ own⟩
      · obtain ⟨a', later, own'⟩ := rest b (by simpa [first] using member')
        exact ⟨a', List.mem_cons_of_mem a later, own'⟩

theorem allAmong_symm {as bs : List Value} (keys : AreKeys as)
    (symm : ∀ a ∈ as, ∀ {b}, a.IsKey → sameKey a b = true → sameKey b a = true)
    (distinct : as.Pairwise fun a a' => sameKey a a' = false) (length : as.length = bs.length)
    (among : allAmong as bs = true) : allAmong bs as = true := by
  rw [areKeys_iff] at keys
  rw [allAmong_iff] at among ⊢
  have apart : as.Pairwise fun a a' => ∀ b, sameKey a b = true → ¬ sameKey a' b = true := by
    apply distinct.imp_of_mem
    intro a a' _ later differs b own own'
    have together := sameKey_trans own (symm a' later (keys a' later) own')
    rw [differs] at together
    cases together
  intro b member
  obtain ⟨a, member', own⟩ := exists_partner apart among length.ge b member
  exact ⟨a, member', symm a member' (keys a member') own⟩

theorem sameKey_symm {a b : Value} (key : a.IsKey) (one : sameKey a b = true) :
    sameKey b a = true := by
  induction a using partsInduction generalizing b with
  | step a ih =>
    cases alike_of_sameKey one with
    | null | bytes | date => exact one
    | dateTime same =>
        simp only [Calendar.DateTime.same, Bool.and_eq_true, beq_iff_eq] at same
        simp [sameKey, Calendar.DateTime.same, same]
    | list => exact key.elim
    | tuple same =>
        have keys := areKeys_iff.mp key
        have back := sameKeys_symm (fun a member => ih a member (keys a member)) same
        exact sameKey_of_alike (.tuple back)
    | frozenSet length among =>
        obtain ⟨keys, distinct⟩ := key
        have back := allAmong_symm keys ih distinct length among
        exact sameKey_of_alike (.frozenSet length.symm back)
    | number first second same =>
        exact sameKey_of_alike (.number second first (Number.same_symm same))
    | text first second => exact sameKey_of_alike (.text second first)

/-- Counting as one key carries over among keys. -/
theorem sameKey_coherent : Keyed.Coherent sameKey IsKey :=
  ⟨sameKey_symm, sameKey_trans⟩

end Bazaar.Value
