import Bazaar.Proofs.Decimal.Equal

/-!
# The order of numbers

Numbers are compared by what they are worth, whatever their types: rational numbers, and an infinity
at either end of them.  The undefined value is neither below nor above anything, and of two numbers
that are defined one is at most the other.
-/

namespace Bazaar

namespace Decimal

/-- Where a value lies among the rational numbers with an end on both sides. -/
def line : Bool ⊕ ℚ → WithBot (WithTop ℚ)
  | .inl true => ⊥
  | .inl false => ((⊤ : WithTop ℚ) : WithBot (WithTop ℚ))
  | .inr q => ((q : WithTop ℚ) : WithBot (WithTop ℚ))

@[simp]
theorem line_inr_lt_inr {p q : ℚ} : line (.inr p) < line (.inr q) ↔ p < q := by
  simp [line]

@[simp]
theorem line_inr_lt_inl {q : ℚ} {negative : Bool} :
    line (.inr q) < line (.inl negative) ↔ negative = false := by
  cases negative
  · exact iff_of_true (WithBot.coe_lt_coe.mpr (WithTop.coe_lt_top q)) rfl
  · exact iff_of_false not_lt_bot Bool.false_ne_true.symm

@[simp]
theorem line_inl_lt_inr {q : ℚ} {negative : Bool} :
    line (.inl negative) < line (.inr q) ↔ negative = true := by
  cases negative
  · exact iff_of_false (WithBot.coe_lt_coe.not.mpr not_top_lt) Bool.false_ne_true
  · exact iff_of_true (WithBot.bot_lt_coe _) rfl

@[simp]
theorem line_inl_lt_inl {negative negative' : Bool} :
    line (.inl negative) < line (.inl negative') ↔ negative = true ∧ negative' = false := by
  cases negative <;> cases negative' <;> simp [line]

theorem line_injective : Function.Injective line := by
  rintro ((_ | _) | p) ((_ | _) | q) same <;> simp_all [line]

section Placed

variable {m m' : Nat} {e e' : Int}

/-- Magnitudes are ordered by their places first and by their mantissas then. -/
theorem IsPlaced.lt_iff (placed : IsPlaced m e) (placed' : IsPlaced m' e') :
    (m : ℚ) * 2 ^ e < m' * 2 ^ e' ↔ e < e' ∨ e = e' ∧ m < m' := by
  -- A higher place holds all its bits, so it is above whatever fits into a lower one.
  have higher {m m' : Nat} {e e' : Int} (placed : IsPlaced m e) (placed' : IsPlaced m' e')
      (below : e < e') : (m : ℚ) * 2 ^ e < m' * 2 ^ e' := by
    have inRange := placed.inRange
    have full : (2 ^ 52 : ℚ) ≤ m' := by exact_mod_cast placed'.full.resolve_right (by omega)
    have fits : (m : ℚ) < 2 ^ 53 := by exact_mod_cast placed.fits
    calc (m : ℚ) * 2 ^ e < 2 ^ 53 * 2 ^ e := mul_lt_mul_of_pos_right fits (zpow_pos two_pos e)
      _ = 2 ^ 52 * 2 ^ (e + 1) := by
          rw [zpow_add_one₀ two_ne_zero]
          ring
      _ ≤ m' * 2 ^ e' :=
          mul_le_mul full (zpow_le_zpow_right₀ one_le_two below) (zpow_pos two_pos _).le
            (Nat.cast_nonneg m')
  rcases Int.lt_trichotomy e e' with below | rfl | above
  · exact iff_of_true (higher placed placed' below) (.inl below)
  · rw [mul_lt_mul_iff_left₀ (zpow_pos two_pos e), Nat.cast_lt]
    simp
  · refine iff_of_false (higher placed' placed above).not_gt ?_
    omega

end Placed

open Float.Model (UnpackedFloat)
open Float.Model.UnpackedFloat

/-- Doubles are ordered by what they stand for. -/
theorem lt_iff_compare (x y : Float) :
    x < y ↔ (partsOf (read x)).compare (partsOf (read y)) = some .lt := by
  rw [← unpack_eq, ← unpack_eq]
  exact decide_eq_true_iff.trans beq_iff_eq

theorem compare_signOf_lt_iff (negative negative' : Bool) :
    compare (signOf negative) (signOf negative') = .lt ↔ negative = true ∧ negative' = false := by
  cases negative <;> cases negative' <;> decide

section Finite

variable {negative negative' : Bool} {m m' : Nat} {e e' : Int}

theorem magnitude_pos (positive : 0 < m) (e : Int) : (0 : ℚ) < m * 2 ^ e :=
  mul_pos (Nat.cast_pos.mpr positive) (zpow_pos two_pos e)

theorem then_compare_eq_lt_iff :
    (compare e e').then (compare m m') = .lt ↔ e < e' ∨ e = e' ∧ m < m' := by
  rw [Ordering.then_eq_lt, compare_lt_iff_lt, compare_eq_iff_eq, compare_lt_iff_lt]

theorem then_compare_eq_gt_iff :
    (compare e e').then (compare m m') = .gt ↔ e' < e ∨ e' = e ∧ m' < m := by
  rw [Ordering.then_eq_gt, compare_gt_iff_gt, compare_eq_iff_eq, compare_gt_iff_gt, @eq_comm Int e]

/-- Magnitudes with signs in their order. -/
theorem compare_finite_lt_iff (placed : IsPlaced m e) (placed' : IsPlaced m' e') (positive : 0 < m)
    (positive' : 0 < m') :
    UnpackedFloat.compare (.finite (signOf negative) m e positive)
        (.finite (signOf negative') m' e' positive') = some .lt ↔
      (if negative then (-1 : ℚ) else 1) * m * 2 ^ e <
        (if negative' then (-1 : ℚ) else 1) * m' * 2 ^ e' := by
  have some_value := magnitude_pos positive e
  have some_value' := magnitude_pos positive' e'
  have order := placed.lt_iff placed'
  have order' := placed'.lt_iff placed
  cases negative <;> cases negative'
  · simp [signOf, UnpackedFloat.compare, then_compare_eq_lt_iff, order]
  · simp [signOf, UnpackedFloat.compare]
    linarith
  · simp [signOf, UnpackedFloat.compare]
    linarith
  · simp [signOf, UnpackedFloat.compare, then_compare_eq_gt_iff, order']

end Finite

/-- What two doubles stand for compares below exactly if it is worth less. -/
theorem compare_partsOf_lt_iff {r r' : Reading}
    (placed : ∀ negative m e, r = .finite negative m e → IsPlaced m e)
    (placed' : ∀ negative m e, r' = .finite negative m e → IsPlaced m e) :
    (partsOf r).compare (partsOf r') = some .lt ↔
      ∃ v ∈ r.worth, ∃ w ∈ r'.worth, line v < line w := by
  match r, r' with
  | .nan, r' => simp [partsOf, Reading.worth, UnpackedFloat.compare]
  | .infinite _, .nan => simp [partsOf, Reading.worth, UnpackedFloat.compare]
  | .finite _ m _, .nan =>
      by_cases zero : m = 0 <;> simp [partsOf, Reading.worth, UnpackedFloat.compare, zero]
  | .infinite negative, .infinite negative' =>
      simp [partsOf, Reading.worth, UnpackedFloat.compare, compare_signOf_lt_iff]
  | .infinite negative, .finite negative' m e =>
      by_cases zero : m = 0 <;> cases negative <;>
        simp [partsOf, Reading.worth, UnpackedFloat.compare, signOf, zero]
  | .finite negative m e, .infinite negative' =>
      by_cases zero : m = 0 <;> cases negative' <;>
        simp [partsOf, Reading.worth, UnpackedFloat.compare, signOf, zero]
  | .finite negative m e, .finite negative' m' e' =>
      have values : (∃ v ∈ (Reading.finite negative m e).worth,
          ∃ w ∈ (Reading.finite negative' m' e').worth, line v < line w) ↔
          (if negative then (-1 : ℚ) else 1) * m * 2 ^ e <
            (if negative' then (-1 : ℚ) else 1) * m' * 2 ^ e' := by
        simp only [Reading.worth, Option.mem_some_iff, exists_eq_left', line_inr_lt_inr]
      rw [values]
      by_cases zero : m = 0 <;> by_cases zero' : m' = 0
      · subst zero zero'
        simp [partsOf, UnpackedFloat.compare]
      · subst zero
        have some_value := magnitude_pos (Nat.pos_of_ne_zero zero') e'
        rw [partsOf_pos (Nat.pos_of_ne_zero zero')]
        cases negative' <;> simp [partsOf, UnpackedFloat.compare, signOf, some_value, some_value.le]
      · subst zero'
        have some_value := magnitude_pos (Nat.pos_of_ne_zero zero) e
        rw [partsOf_pos (Nat.pos_of_ne_zero zero)]
        cases negative <;> simp [partsOf, UnpackedFloat.compare, signOf, some_value, some_value.le]
      · have positive := Nat.pos_of_ne_zero zero
        have positive' := Nat.pos_of_ne_zero zero'
        rw [partsOf_pos positive, partsOf_pos positive',
          compare_finite_lt_iff (placed _ _ _ rfl) (placed' _ _ _ rfl) positive positive']

/-- A double is below another one exactly if it is worth less. -/
theorem lt_iff_worth (x y : Float) :
    x < y ↔ ∃ v ∈ (read x).worth, ∃ w ∈ (read y).worth, line v < line w := by
  rw [lt_iff_compare]
  exact compare_partsOf_lt_iff (fun _ _ _ => isPlaced_of_read) fun _ _ _ => isPlaced_of_read

/-- The value of a finite double as a quotient. -/
theorem signed_quotient (negative : Bool) (m : Nat) (e : Int) :
    ((if negative then -(m * (powerOfTwo e).1 : Nat) else (m * (powerOfTwo e).1 : Nat) : Int) : ℚ) =
      (if negative then -1 else 1) * m * 2 ^ e * (powerOfTwo e).2 := by
  have up := cast_powerOfTwo_fst e
  split_ifs
  all_goals
    push_cast
    rw [up]
    ring

/-- Integers compare as what they are multiples of. -/
theorem lt_iff_of_scaled {a b : Int} {p q : ℚ} {den : Nat} (positive : 0 < den)
    (left : (a : ℚ) = p * den) (right : (b : ℚ) = q * den) : a < b ↔ p < q := by
  rw [← Int.cast_lt (R := ℚ), left, right]
  exact mul_lt_mul_iff_left₀ (Nat.cast_pos.mpr positive)

end Decimal

namespace Number

open Decimal (line read)

variable {a b c : Number}

theorem intBelowFloat_iff (n : Int) (x : Float) :
    intBelowFloat n x = true ↔ ∃ w ∈ (read x).worth, line (.inr n) < line w := by
  unfold intBelowFloat
  cases read x with
  | nan => simp [Decimal.Reading.worth]
  | infinite negative => simp [Decimal.Reading.worth]
  | finite negative m e =>
      simp only [Decimal.Reading.worth, Option.mem_some_iff, exists_eq_left',
        Decimal.line_inr_lt_inr]
      exact decide_eq_true_iff.trans (Decimal.lt_iff_of_scaled (Decimal.powerOfTwo_snd_pos e)
        (Int.cast_mul n _) (Decimal.signed_quotient negative m e))

theorem floatBelowInt_iff (x : Float) (n : Int) :
    floatBelowInt x n = true ↔ ∃ v ∈ (read x).worth, line v < line (.inr n) := by
  unfold floatBelowInt
  cases read x with
  | nan => simp [Decimal.Reading.worth]
  | infinite negative => simp [Decimal.Reading.worth]
  | finite negative m e =>
      simp only [Decimal.Reading.worth, Option.mem_some_iff, exists_eq_left',
        Decimal.line_inr_lt_inr]
      exact decide_eq_true_iff.trans (Decimal.lt_iff_of_scaled (Decimal.powerOfTwo_snd_pos e)
        (Decimal.signed_quotient negative m e) (Int.cast_mul n _))

/-- A number is below another one exactly if it is worth less. -/
theorem below_iff (a b : Number) :
    a.below b = true ↔ ∃ v ∈ a.worth, ∃ w ∈ b.worth, line v < line w := by
  match a, b with
  | .int m, .int n => simp [below, worth]
  | .float x, .float y => exact decide_eq_true_iff.trans (Decimal.lt_iff_worth x y)
  | .int n, .float x => simp [below, worth, intBelowFloat_iff]
  | .float x, .int n => simp [below, worth, floatBelowInt_iff]

/-- A number is at most another one exactly if it is not worth more. -/
theorem atMost_iff (a b : Number) :
    a.atMost b = true ↔ ∃ v ∈ a.worth, ∃ w ∈ b.worth, line v ≤ line w := by
  rw [atMost, Bool.or_eq_true, below_iff, same_iff_worth]
  constructor
  · rintro (⟨v, inFirst, w, inSecond, less⟩ | ⟨w, inFirst, inSecond⟩)
    · exact ⟨v, inFirst, w, inSecond, less.le⟩
    · exact ⟨w, inFirst, w, inSecond, le_rfl⟩
  · rintro ⟨v, inFirst, w, inSecond, atMost⟩
    rcases atMost.lt_or_eq with less | same
    · exact .inl ⟨v, inFirst, w, inSecond, less⟩
    · obtain rfl := Decimal.line_injective same
      exact .inr ⟨v, inFirst, inSecond⟩

section Worth

variable {v w : Bool ⊕ ℚ} (inFirst : v ∈ a.worth) (inSecond : w ∈ b.worth)

include inFirst inSecond

theorem below_iff_of_worth : a.below b = true ↔ line v < line w := by
  rw [below_iff]
  constructor
  · rintro ⟨v', inFirst', w', inSecond', less⟩
    obtain rfl := Option.mem_unique inFirst inFirst'
    obtain rfl := Option.mem_unique inSecond inSecond'
    exact less
  · exact fun less => ⟨v, inFirst, w, inSecond, less⟩

theorem atMost_iff_of_worth : a.atMost b = true ↔ line v ≤ line w := by
  rw [atMost_iff]
  constructor
  · rintro ⟨v', inFirst', w', inSecond', atMost⟩
    obtain rfl := Option.mem_unique inFirst inFirst'
    obtain rfl := Option.mem_unique inSecond inSecond'
    exact atMost
  · exact fun atMost => ⟨v, inFirst, w, inSecond, atMost⟩

end Worth

/-! ## Numbers that are defined -/

/-- Whether a number is worth anything: every integer, and every double but the undefined value. -/
def IsDefined (a : Number) : Prop :=
  ∃ w, w ∈ a.worth

@[simp]
theorem isDefined_int (n : Int) : (int n).IsDefined :=
  ⟨_, rfl⟩

theorem not_isDefined_iff : ¬a.IsDefined ↔ ∃ x, a = .float x ∧ read x = .nan := by
  cases a with
  | int n => simp
  | float x => cases reads : read x <;> simp [IsDefined, worth, reads, Decimal.Reading.worth]

theorem isDefined_of_below (less : a.below b = true) : a.IsDefined ∧ b.IsDefined := by
  obtain ⟨v, inFirst, w, inSecond, -⟩ := (below_iff a b).mp less
  exact ⟨⟨v, inFirst⟩, ⟨w, inSecond⟩⟩

theorem isDefined_of_atMost (atMost : a.atMost b = true) : a.IsDefined ∧ b.IsDefined := by
  obtain ⟨v, inFirst, w, inSecond, -⟩ := (atMost_iff a b).mp atMost
  exact ⟨⟨v, inFirst⟩, ⟨w, inSecond⟩⟩

theorem atMost_refl (defined : a.IsDefined) : a.atMost a = true := by
  obtain ⟨v, worth⟩ := defined
  exact (atMost_iff_of_worth worth worth).mpr le_rfl

theorem atMost_of_below (less : a.below b = true) : a.atMost b = true := by
  rw [atMost, less, Bool.true_or]

theorem atMost_trans (first : a.atMost b = true) (second : b.atMost c = true) :
    a.atMost c = true := by
  obtain ⟨v, inFirst, w, inSecond, less⟩ := (atMost_iff a b).mp first
  obtain ⟨w', inSecond', u, inThird, more⟩ := (atMost_iff b c).mp second
  obtain rfl := Option.mem_unique inSecond inSecond'
  exact (atMost_iff_of_worth inFirst inThird).mpr (less.trans more)

/-- What is below a number is below whatever is not below that number. -/
theorem below_of_below_of_atMost (first : a.below b = true) (second : b.atMost c = true) :
    a.below c = true := by
  obtain ⟨v, inFirst, w, inSecond, less⟩ := (below_iff a b).mp first
  obtain ⟨w', inSecond', u, inThird, more⟩ := (atMost_iff b c).mp second
  obtain rfl := Option.mem_unique inSecond inSecond'
  exact (below_iff_of_worth inFirst inThird).mpr (less.trans_le more)

/-- Of two numbers that are defined, one is below the other or at least as large. -/
theorem below_eq_false_iff (first : a.IsDefined) (second : b.IsDefined) :
    a.below b = false ↔ b.atMost a = true := by
  obtain ⟨v, inFirst⟩ := first
  obtain ⟨w, inSecond⟩ := second
  rw [← Bool.not_eq_true, below_iff_of_worth inFirst inSecond,
    atMost_iff_of_worth inSecond inFirst, not_lt]

theorem atMost_eq_false_iff (first : a.IsDefined) (second : b.IsDefined) :
    a.atMost b = false ↔ b.below a = true := by
  rw [← Bool.not_eq_true, ← below_eq_false_iff second first, Bool.not_eq_false]

/-- Whatever is cut off below and above lies between the two limits, also the undefined value. -/
theorem greatest_least_between {low cap : Number} (inOrder : low.atMost cap = true) (a : Number) :
    low.atMost (greatest low (a.least cap)) = true ∧
      (greatest low (a.least cap)).atMost cap = true := by
  obtain ⟨lowDefined, capDefined⟩ := isDefined_of_atMost inOrder
  unfold greatest
  split
  · rename_i more
    refine ⟨atMost_of_below more, ?_⟩
    unfold least at more ⊢
    split
    · exact atMost_refl capDefined
    · rename_i notBelow
      rw [if_neg notBelow] at more
      exact (below_eq_false_iff capDefined (isDefined_of_below more).2).mp
        (Bool.eq_false_of_not_eq_true notBelow)
  · exact ⟨atMost_refl lowDefined, inOrder⟩

end Number

end Bazaar
