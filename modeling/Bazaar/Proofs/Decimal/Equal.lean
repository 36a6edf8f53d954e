import Bazaar.Proofs.Decimal.Whole

/-!
# Equal numbers

Two numbers are the same exactly if both are worth the same: one rational number or one infinity.
So numbers that are the same as a third one are the same as each other, whatever their types.  The
undefined value is worth nothing and is the same as no number, not even as itself.
-/

namespace Bazaar

namespace Decimal

/-- What a double is worth: an infinity by its sign, or a rational number. -/
def Reading.worth : Reading → Option (Bool ⊕ ℚ)
  | .nan => none
  | .infinite negative => some (.inl negative)
  | .finite negative mantissa exponent =>
    some (.inr ((if negative then -1 else 1) * mantissa * 2 ^ exponent))

/-- A mantissa in the lowest place that doubles have, or with all its bits. -/
structure IsPlaced (mantissa : Nat) (exponent : Int) : Prop where
  fits : mantissa < 2 ^ 53
  inRange : -1074 ≤ exponent
  full : 2 ^ 52 ≤ mantissa ∨ exponent = -1074

theorem isPlaced_of_read {x : Float} {negative : Bool} {mantissa : Nat} {exponent : Int}
    (reads : read x = .finite negative mantissa exponent) : IsPlaced mantissa exponent := by
  obtain ⟨biased, fraction, -, inFraction, -, ⟨-, rfl, rfl⟩ | ⟨normal, rfl, rfl⟩⟩ :=
    toBits_of_read reads
  · exact ⟨by omega, le_rfl, .inr rfl⟩
  · exact ⟨by omega, by omega, .inl (by omega)⟩

section Placed

variable {m m' : Nat} {e e' : Int}

/-- A number has one mantissa and one place only. -/
theorem IsPlaced.le (placed : IsPlaced m e) (placed' : IsPlaced m' e')
    (same : (m : ℚ) * 2 ^ e = m' * 2 ^ e') (positive : 0 < m) : e' ≤ e := by
  by_contra below
  have full : 2 ^ 52 ≤ m' := placed'.full.resolve_right fun low => by
    have inRange := placed.inRange
    omega
  obtain ⟨gap, shift⟩ : ∃ gap : Nat, e' = e + 1 + gap :=
    ⟨(e' - e - 1).toNat, by omega⟩
  have grown : m = m' * 2 * 2 ^ gap := by
    rw [shift, zpow_add₀ two_ne_zero, zpow_add₀ two_ne_zero, zpow_natCast, zpow_one] at same
    have unit : (2 : ℚ) ^ e ≠ 0 := zpow_ne_zero e two_ne_zero
    have : (m : ℚ) = m' * 2 * 2 ^ gap := by
      apply mul_right_cancel₀ unit
      linarith
    exact_mod_cast this
  have above := Nat.le_mul_of_pos_right (m' * 2) (Nat.two_pow_pos gap)
  have fits := placed.fits
  omega

theorem IsPlaced.unique (placed : IsPlaced m e) (placed' : IsPlaced m' e')
    (same : (m : ℚ) * 2 ^ e = m' * 2 ^ e') (positive : 0 < m) : m = m' ∧ e = e' := by
  have unit (e : Int) : (0 : ℚ) < 2 ^ e := zpow_pos two_pos e
  have positive' : 0 < m' := by
    have product : (0 : ℚ) < m' * 2 ^ e' := by
      rw [← same]
      exact mul_pos (Nat.cast_pos.mpr positive) (unit e)
    exact_mod_cast (pos_iff_pos_of_mul_pos product).mpr (unit e')
  have place : e = e' :=
    Int.le_antisymm (placed'.le placed same.symm positive') (placed.le placed' same positive)
  subst place
  exact ⟨by exact_mod_cast mul_right_cancel₀ (unit e).ne' same, rfl⟩

end Placed

/-! ## Doubles -/

open Float.Model (UnpackedFloat)
open Float.Model.UnpackedFloat

/-- Doubles are compared by what they stand for. -/
theorem beq_eq (x y : Float) : (x == y) = (partsOf (read x)).beq (partsOf (read y)) := by
  rw [← unpack_eq, ← unpack_eq]
  rfl

theorem compare_signOf_iff (negative negative' : Bool) :
    compare (signOf negative) (signOf negative') = .eq ↔ negative = negative' := by
  cases negative <;> cases negative' <;> decide

section Finite

variable {negative negative' : Bool} {m m' : Nat} {e e' : Int}

theorem compare_finite_iff (positive : 0 < m) (positive' : 0 < m') :
    UnpackedFloat.compare (.finite (signOf negative) m e positive)
        (.finite (signOf negative') m' e' positive') = some .eq ↔
      negative = negative' ∧ e = e' ∧ m = m' := by
  cases negative <;> cases negative' <;>
    simp [signOf, UnpackedFloat.compare, Ordering.then_eq_eq]

theorem signed_eq_zero_iff : (if negative then (-1 : ℚ) else 1) * m * 2 ^ e = 0 ↔ m = 0 := by
  have unit : (2 : ℚ) ^ e ≠ 0 := zpow_ne_zero e two_ne_zero
  cases negative <;> simp [unit]

/-- Magnitudes with signs are equal only if their signs are. -/
theorem signed_eq_iff (placed : IsPlaced m e) (placed' : IsPlaced m' e') (positive : 0 < m)
    (positive' : 0 < m') :
    (if negative then (-1 : ℚ) else 1) * m * 2 ^ e =
        (if negative' then (-1 : ℚ) else 1) * m' * 2 ^ e' ↔
      negative = negative' ∧ e = e' ∧ m = m' := by
  have some_value : (0 : ℚ) < m * 2 ^ e := mul_pos (Nat.cast_pos.mpr positive) (zpow_pos two_pos e)
  have some_value' : (0 : ℚ) < m' * 2 ^ e' :=
    mul_pos (Nat.cast_pos.mpr positive') (zpow_pos two_pos e')
  have magnitudes : (m : ℚ) * 2 ^ e = m' * 2 ^ e' ↔ e = e' ∧ m = m' := by
    constructor
    · intro same
      exact (placed.unique placed' same positive).symm
    · rintro ⟨rfl, rfl⟩
      rfl
  cases negative <;> cases negative' <;>
    simp only [Bool.false_eq_true, if_true, if_false, one_mul, neg_mul, neg_inj, magnitudes,
      reduceCtorEq, true_and, false_and, iff_false]
  · intro same
    linarith
  · intro same
    linarith

end Finite

/-- What two doubles stand for compares equal exactly if it is worth the same. -/
theorem compare_partsOf_iff {r r' : Reading}
    (placed : ∀ negative m e, r = .finite negative m e → IsPlaced m e)
    (placed' : ∀ negative m e, r' = .finite negative m e → IsPlaced m e) :
    (partsOf r).compare (partsOf r') = some .eq ↔ ∃ w, w ∈ r.worth ∧ w ∈ r'.worth := by
  match r, r' with
  | .nan, r' => simp [partsOf, Reading.worth, UnpackedFloat.compare]
  | .infinite _, .nan => simp [partsOf, Reading.worth, UnpackedFloat.compare]
  | .finite _ m _, .nan =>
      by_cases zero : m = 0 <;> simp [partsOf, Reading.worth, UnpackedFloat.compare, zero]
  | .infinite negative, .infinite negative' =>
      simp [partsOf, Reading.worth, UnpackedFloat.compare, compare_signOf_iff,
        @eq_comm Bool negative]
  | .infinite negative, .finite negative' m e =>
      by_cases zero : m = 0 <;> cases negative <;>
        simp [partsOf, Reading.worth, UnpackedFloat.compare, signOf, zero]
  | .finite negative m e, .infinite negative' =>
      by_cases zero : m = 0 <;> cases negative' <;>
        simp [partsOf, Reading.worth, UnpackedFloat.compare, signOf, zero]
  | .finite negative m e, .finite negative' m' e' =>
      have values : (∃ w, w ∈ (Reading.finite negative m e).worth ∧
          w ∈ (Reading.finite negative' m' e').worth) ↔
          (if negative then (-1 : ℚ) else 1) * m * 2 ^ e =
            (if negative' then (-1 : ℚ) else 1) * m' * 2 ^ e' := by
        simp [Reading.worth, eq_comm]
      rw [values]
      by_cases zero : m = 0 <;> by_cases zero' : m' = 0
      · subst zero zero'
        simp [partsOf, UnpackedFloat.compare]
      · subst zero
        rw [Nat.cast_zero, mul_zero, zero_mul, @eq_comm ℚ 0, signed_eq_zero_iff,
          partsOf_pos (Nat.pos_of_ne_zero zero')]
        cases negative' <;> simp [partsOf, UnpackedFloat.compare, signOf, zero']
      · subst zero'
        rw [Nat.cast_zero, mul_zero, zero_mul, signed_eq_zero_iff,
          partsOf_pos (Nat.pos_of_ne_zero zero)]
        cases negative <;> simp [partsOf, UnpackedFloat.compare, signOf, zero]
      · have positive := Nat.pos_of_ne_zero zero
        have positive' := Nat.pos_of_ne_zero zero'
        rw [partsOf_pos positive, partsOf_pos positive', compare_finite_iff,
          signed_eq_iff (placed _ _ _ rfl) (placed' _ _ _ rfl) positive positive']

/-- Doubles are equal exactly if they are worth the same. -/
theorem beq_iff_worth (x y : Float) :
    (x == y) = true ↔ ∃ w, w ∈ (read x).worth ∧ w ∈ (read y).worth := by
  rw [beq_eq, UnpackedFloat.beq, beq_iff_eq]
  exact compare_partsOf_iff (fun _ _ _ => isPlaced_of_read) fun _ _ _ => isPlaced_of_read

end Decimal

namespace Number

/-- What a number is worth. -/
def worth : Number → Option (Bool ⊕ ℚ)
  | .int n => some (.inr n)
  | .float x => (Decimal.read x).worth

theorem intEqFloat_iff (n : Int) (x : Float) :
    intEqFloat n x = true ↔ .inr (n : ℚ) ∈ (Decimal.read x).worth := by
  unfold intEqFloat
  cases Decimal.read x with
  | nan => simp [Decimal.Reading.worth]
  | infinite negative => simp [Decimal.Reading.worth]
  | finite negative m e =>
      have down : ((Decimal.powerOfTwo e).2 : ℚ) ≠ 0 :=
        Nat.cast_ne_zero.mpr (Decimal.powerOfTwo_snd_pos e).ne'
      simp only [Decimal.quotient, beq_iff_eq, Decimal.Reading.worth, Option.mem_some_iff,
        Sum.inr.injEq]
      rw [← Int.cast_inj (α := ℚ)]
      have up := Decimal.cast_powerOfTwo_fst e
      cases negative
      · simp only [Bool.false_eq_true, if_false]
        push_cast
        rw [up, ← mul_assoc, mul_left_inj' down, one_mul]
      · simp only [if_true]
        push_cast
        rw [up, ← mul_assoc, ← neg_mul, mul_left_inj' down]
        simp

/-- Numbers are the same exactly if they are worth the same. -/
theorem same_iff_worth (a b : Number) : a.same b = true ↔ ∃ w, w ∈ a.worth ∧ w ∈ b.worth := by
  match a, b with
  | .int m, .int n => simp [same, worth, @eq_comm Int m]
  | .float x, .float y => exact Decimal.beq_iff_worth x y
  | .int n, .float x => simp [same, worth, intEqFloat_iff]
  | .float x, .int n => simp [same, worth, intEqFloat_iff]

theorem same_symm {a b : Number} (same : a.same b = true) : b.same a = true := by
  rw [same_iff_worth] at same ⊢
  obtain ⟨w, first, second⟩ := same
  exact ⟨w, second, first⟩

theorem same_trans {a b c : Number} (same : a.same b = true) (same' : b.same c = true) :
    a.same c = true := by
  rw [same_iff_worth] at same same' ⊢
  obtain ⟨w, first, second⟩ := same
  obtain ⟨w', second', third⟩ := same'
  obtain rfl := Option.mem_unique second second'
  exact ⟨w, first, third⟩

end Number

end Bazaar
