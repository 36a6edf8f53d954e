import Bazaar.Number
import Mathlib

/-!
# The range of the doubles

A quotient is rounded to a double exactly if it lies below `2 ^ 1024 - 2 ^ 970`, half way between
the largest double and the power of two behind it.  This says which integers are doubles, and which
are when they count thousandths.
-/

namespace Bazaar.Decimal

/-- The least number that is rounded to an infinity. -/
def limit : Nat := 2 ^ 1024 - 2 ^ 970

/-! ## Bits -/

section Bits

open Float.Model (Format)
open Float.Model.UnpackedFloat

/-- Up to the word of infinity, a word is the word of a double. -/
theorem toBits_ofBits {bits : UInt64} (defined : bits.toNat % 2 ^ 63 ≤ 2047 * 2 ^ 52) :
    (Float.ofBits bits).toBits = bits := by
  have exponent : (@unpackExponent Format.binary64 bits.toBitVec).toNat =
      bits.toNat / 2 ^ 52 % 2 ^ 11 := by
    simp [unpackExponent, BitVec.extractLsb_toNat, Nat.shiftRight_eq_div_pow]
  have mantissa : (@unpackMantissa Format.binary64 bits.toBitVec).toNat =
      bits.toNat % 2 ^ 52 := by
    simp [unpackMantissa, BitVec.extractLsb_toNat]
  have isDefined : ¬@isNaNBits Format.binary64 bits.toBitVec := by
    unfold isNaNBits
    rw [decide_eq_true_eq]
    rintro ⟨top, undefined⟩
    have full := congrArg BitVec.toNat top
    rw [exponent] at full
    change bits.toNat / 2 ^ 52 % 2 ^ 11 = 2047 at full
    refine undefined (BitVec.eq_of_toNat_eq ?_)
    rw [mantissa]
    change bits.toNat % 2 ^ 52 = 0
    omega
  have undone : pack Format.binary64 (unpack Format.binary64 bits.toBitVec) = bits.toBitVec := by
    rw [pack_unpack, if_neg isDefined]
  exact congrArg UInt64.ofBitVec undone

end Bits

theorem isFinite_iff (x : Float) :
    isFinite x = true ↔ x.toBits.toNat / 2 ^ 52 % 2048 ≠ 2047 := by
  change isFinite x = true ↔ x.toBits.toNat / Nat.pow 2 52 % 2048 ≠ 2047
  unfold isFinite read
  dsimp only
  generalize x.toBits.toNat / Nat.pow 2 52 % 2048 = biased
  by_cases top : biased = 2047
  · cases x.toBits.toNat % Nat.pow 2 52 <;> simp [top]
  · by_cases bottom : biased = 0 <;> simp [top, bottom]

theorem isFinite_ofBits {bits : UInt64} (defined : bits.toNat % 2 ^ 63 ≤ 2047 * 2 ^ 52) :
    isFinite (Float.ofBits bits) = true ↔ bits.toNat % 2 ^ 63 < 2047 * 2 ^ 52 := by
  rw [isFinite_iff, toBits_ofBits defined]
  omega

/-! ## Rounding -/

section Rounding

variable {k num den : Nat}

theorem le_roundQuotient (positive : 0 < den) (above : k * den ≤ num) :
    k ≤ roundQuotient num den := by
  have whole : k ≤ num / den := (Nat.le_div_iff_mul_le positive).mpr above
  unfold roundQuotient
  dsimp only
  split_ifs <;> omega

theorem roundQuotient_le (positive : 0 < den) (below : num < k * den) :
    roundQuotient num den ≤ k := by
  have whole : num / den < k := (Nat.div_lt_iff_lt_mul positive).mpr below
  unfold roundQuotient
  dsimp only
  split_ifs <;> omega

/-- A quotient is rounded up to an even number from half a unit below it. -/
theorem even_le_roundQuotient_iff (positive : 0 < den) :
    2 * (k + 1) ≤ roundQuotient num den ↔ (4 * k + 3) * den ≤ 2 * num := by
  have split := Nat.div_add_mod num den
  have rest := Nat.mod_lt num positive
  unfold roundQuotient
  dsimp only
  generalize num / den = whole at *
  generalize num % den = part at *
  subst split
  rcases Nat.lt_trichotomy whole (2 * k + 1) with below | rfl | above
  · have small : den * whole ≤ den * (2 * k) := Nat.mul_le_mul_left den (by omega)
    have far : ¬(4 * k + 3) * den ≤ 2 * (den * whole + part) := by nlinarith
    simp only [far, iff_false]
    split_ifs <;> omega
  · have odd : (2 * k + 1) % 2 = 1 := by omega
    have near : (4 * k + 3) * den ≤ 2 * (den * (2 * k + 1) + part) ↔ den ≤ 2 * part := by
      constructor <;> intro h <;> nlinarith
    rw [near]
    simp [odd]
    split_ifs <;> omega
  · have large : den * (2 * k + 2) ≤ den * whole := Nat.mul_le_mul_left den (by omega)
    have reached : (4 * k + 3) * den ≤ 2 * (den * whole + part) := by nlinarith
    simp only [reached, iff_true]
    split_ifs <;> omega

/-! ## The nearest double -/

/-- A power of a base as a quotient: numerator and denominator. -/
def powerOf (base : Nat) (exponent : Int) : Nat × Nat :=
  if 0 ≤ exponent then (base ^ exponent.toNat, 1) else (1, base ^ (-exponent).toNat)

theorem powerOf_snd_pos {base : Nat} (some_base : 0 < base) (e : Int) : 0 < (powerOf base e).2 := by
  unfold powerOf
  split
  · exact Nat.one_pos
  · exact Nat.pow_pos some_base

theorem cast_powerOf_fst {base : Nat} (some_base : 0 < base) (e : Int) :
    ((powerOf base e).1 : ℚ) = base ^ e * ((powerOf base e).2 : ℚ) := by
  have nonzero : (base : ℚ) ≠ 0 := Nat.cast_ne_zero.mpr some_base.ne'
  unfold powerOf
  split
  · rename_i natural
    obtain ⟨n, rfl⟩ := Int.eq_ofNat_of_zero_le natural
    simp
  · rename_i negative
    obtain ⟨n, rfl⟩ := Int.exists_eq_neg_ofNat (Int.le_of_lt (Int.not_le.mp negative))
    simp [nonzero]

theorem powerOfTwo_snd_pos (e : Int) : 0 < (powerOfTwo e).2 :=
  powerOf_snd_pos two_pos e

theorem cast_powerOfTwo_fst (e : Int) :
    ((powerOfTwo e).1 : ℚ) = 2 ^ e * ((powerOfTwo e).2 : ℚ) :=
  cast_powerOf_fst two_pos e

/-- A quotient in units of a power of two, against a number of them. -/
theorem mul_powerOfTwo_le_iff (e : Int) :
    k * (den * (powerOfTwo e).1) ≤ num * (powerOfTwo e).2 ↔ (k : ℚ) * 2 ^ e * den ≤ num := by
  have positive : (0 : ℚ) < (powerOfTwo e).2 := by exact_mod_cast powerOfTwo_snd_pos e
  rw [← Nat.cast_le (α := ℚ)]
  push_cast
  rw [cast_powerOfTwo_fst]
  have shape : (k : ℚ) * (den * (2 ^ e * ((powerOfTwo e).2 : ℚ))) =
      (k * 2 ^ e * den) * ((powerOfTwo e).2 : ℚ) := by ring
  rw [shape]
  exact mul_le_mul_iff_left₀ positive

/-- The mantissa of a quotient in units of a power of two. -/
def mantissaAt (unit : Int) (num den : Nat) : Nat :=
  roundQuotient (num * (powerOfTwo unit).2) (den * (powerOfTwo unit).1)

/-- The bits of a mantissa with its unit. -/
def bitsAt (unit : Int) (mantissa : Nat) : Nat :=
  if mantissa < 2 ^ 52 then mantissa else (unit + 1074).toNat * 2 ^ 52 + mantissa

theorem nearestBits_eq (estimate : Int) (isEstimate : estimate = num.log2 - den.log2) :
    ∃ top : Int,
      (top = estimate - 1 ∧ ¬(2 : ℚ) ^ estimate * den ≤ num ∨
        top = estimate ∧ (2 : ℚ) ^ estimate * den ≤ num) ∧
      nearestBits num den =
        min (bitsAt (max (top - 52) (-1074)) (mantissaAt (max (top - 52) (-1074)) num den))
          (2047 * 2 ^ 52) := by
  subst isEstimate
  refine ⟨if num * (powerOfTwo (num.log2 - den.log2)).2 <
      (powerOfTwo (num.log2 - den.log2)).1 * den then num.log2 - den.log2 - 1
    else num.log2 - den.log2, ?_, rfl⟩
  have reached := @mul_powerOfTwo_le_iff 1 num den (num.log2 - den.log2)
  rw [Nat.one_mul, Nat.cast_one, one_mul] at reached
  rw [← reached, Nat.mul_comm (Prod.fst _) den]
  split_ifs with below
  · exact .inl ⟨rfl, Nat.not_le.mpr below⟩
  · exact .inr ⟨rfl, Nat.not_lt.mp below⟩

/-- A quotient is rounded in the unit that its highest binary place asks for. -/
theorem exists_top (some_num : 0 < num) (positive : 0 < den) :
    ∃ top : Int, (2 : ℚ) ^ top * den ≤ num ∧ (num : ℚ) < 2 ^ (top + 1) * den ∧
      nearestBits num den =
        min (bitsAt (max (top - 52) (-1074)) (mantissaAt (max (top - 52) (-1074)) num den))
          (2047 * 2 ^ 52) := by
  have num_ge : (2 : ℚ) ^ num.log2 ≤ num := by exact_mod_cast Nat.log2_self_le some_num.ne'
  have num_lt : (num : ℚ) < 2 ^ (num.log2 + 1) := by exact_mod_cast Nat.lt_log2_self
  have den_ge : (2 : ℚ) ^ den.log2 ≤ den := by exact_mod_cast Nat.log2_self_le positive.ne'
  have den_lt : (den : ℚ) < 2 ^ (den.log2 + 1) := by exact_mod_cast Nat.lt_log2_self
  obtain ⟨top, placed, bits⟩ := @nearestBits_eq num den _ rfl
  refine ⟨top, ?_, ?_, bits⟩
  · rcases placed with ⟨rfl, -⟩ | ⟨rfl, reached⟩
    · calc (2 : ℚ) ^ ((num.log2 : Int) - den.log2 - 1) * den
          ≤ 2 ^ ((num.log2 : Int) - den.log2 - 1) * 2 ^ (den.log2 + 1) := by gcongr
        _ = 2 ^ num.log2 := by
            rw [← zpow_natCast, ← zpow_natCast, ← zpow_add₀ two_ne_zero]
            push_cast
            congr 1
            ring
        _ ≤ num := num_ge
    · exact reached
  · rcases placed with ⟨rfl, notReached⟩ | ⟨rfl, -⟩
    · rw [sub_add_cancel]
      exact not_le.mp notReached
    · calc (num : ℚ) < 2 ^ (num.log2 + 1) := num_lt
        _ = 2 ^ ((num.log2 : Int) - den.log2 + 1) * 2 ^ den.log2 := by
            rw [← zpow_natCast, ← zpow_natCast, ← zpow_add₀ two_ne_zero]
            push_cast
            congr 1
            ring
        _ ≤ 2 ^ ((num.log2 : Int) - den.log2 + 1) * den := by gcongr

theorem den_mul_powerOfTwo_pos (positive : 0 < den) (unit : Int) :
    0 < den * (powerOfTwo unit).1 := by
  have some_up : (0 : ℚ) < (powerOfTwo unit).1 := by
    rw [cast_powerOfTwo_fst]
    have some_down : (0 : ℚ) < (powerOfTwo unit).2 := by exact_mod_cast powerOfTwo_snd_pos unit
    positivity
  exact Nat.mul_pos positive (by exact_mod_cast some_up)

theorem mantissaAt_le {unit : Int} (positive : 0 < den) (below : (num : ℚ) < k * 2 ^ unit * den) :
    mantissaAt unit num den ≤ k := by
  apply roundQuotient_le (den_mul_powerOfTwo_pos positive unit)
  rw [← Nat.not_le, mul_powerOfTwo_le_iff]
  exact not_le.mpr below

theorem le_mantissaAt {unit : Int} (positive : 0 < den) (above : (k : ℚ) * 2 ^ unit * den ≤ num) :
    k ≤ mantissaAt unit num den :=
  le_roundQuotient (den_mul_powerOfTwo_pos positive unit) ((mul_powerOfTwo_le_iff unit).mpr above)

theorem bitsAt_of_le {unit : Int} {mantissa : Nat} (full : 2 ^ 52 ≤ mantissa) :
    bitsAt unit mantissa = (unit + 1074).toNat * 2 ^ 52 + mantissa :=
  if_neg (Nat.not_lt.mpr full)

/-- Half a unit in the last place of the largest double. -/
def halfUnit : ℚ :=
  2 ^ (970 : Int)

theorem halfUnit_pos : 0 < halfUnit :=
  zpow_pos two_pos _

theorem zpow_eq_halfUnit {e : Int} (n : Nat) (place : e = n + 970) :
    (2 : ℚ) ^ e = 2 ^ n * halfUnit := by
  rw [place, zpow_add₀ two_ne_zero, zpow_natCast]
  rfl

theorem cast_limit : (limit : ℚ) = (2 ^ 54 - 1) * halfUnit := by
  have spelled : limit = (2 ^ 54 - 1) * 2 ^ 970 := by decide +kernel
  have unit : ((2 ^ 970 : Nat) : ℚ) = halfUnit := Nat.cast_pow 2 970
  rw [spelled, Nat.cast_mul, unit]
  norm_num

/-- In the highest binade the mantissa overflows from half a unit below the next power of two. -/
theorem overflow_mantissaAt_iff (positive : 0 < den) :
    2 ^ 53 ≤ mantissaAt 971 num den ↔ limit * den ≤ num := by
  have half := @even_le_roundQuotient_iff (2 ^ 52 - 1) (num * (powerOfTwo 971).2) _
    (den_mul_powerOfTwo_pos positive 971)
  have twice : 2 * (num * (powerOfTwo 971).2) = 2 * num * (powerOfTwo 971).2 := by ring
  rw [twice, mul_powerOfTwo_le_iff, zpow_eq_halfUnit (e := 971) 1 (by norm_num)] at half
  refine half.trans ?_
  rw [← Nat.cast_le (α := ℚ) (m := limit * den), Nat.cast_mul limit, cast_limit]
  push_cast
  constructor <;> intro h <;> linarith

section Binade

variable {e unit : Int} (positive : 0 < den)

include positive

/-- Below a binade that ends with the highest one, a quotient is below the limit. -/
theorem lt_limit_of_lt (small : e ≤ 1023) (below : (num : ℚ) < 2 ^ e * den) :
    num < limit * den := by
  have some_unit : 0 < halfUnit * den := mul_pos halfUnit_pos (Nat.cast_pos.mpr positive)
  have grows : (2 : ℚ) ^ e ≤ 2 ^ (1023 : Int) := zpow_le_zpow_right₀ one_le_two small
  rw [zpow_eq_halfUnit (e := 1023) 53 (by norm_num)] at grows
  have bound := mul_le_mul_of_nonneg_right grows (Nat.cast_nonneg (α := ℚ) den)
  rw [← Nat.cast_lt (α := ℚ), Nat.cast_mul, cast_limit]
  linarith

/-- Behind the highest binade, a quotient is not below the limit. -/
theorem not_lt_limit_of_le (large : 1024 ≤ e) (above : (2 : ℚ) ^ e * den ≤ num) :
    ¬num < limit * den := by
  have some_unit : 0 < halfUnit * den := mul_pos halfUnit_pos (Nat.cast_pos.mpr positive)
  have grows : (2 : ℚ) ^ (1024 : Int) ≤ 2 ^ e := zpow_le_zpow_right₀ one_le_two large
  rw [zpow_eq_halfUnit (e := 1024) 54 (by norm_num)] at grows
  have bound := mul_le_mul_of_nonneg_right grows (Nat.cast_nonneg (α := ℚ) den)
  rw [← Nat.cast_lt (α := ℚ), Nat.cast_mul, cast_limit]
  linarith

theorem mantissaAt_le_of_lt (room : e ≤ (53 : Nat) + unit) (below : (num : ℚ) < 2 ^ e * den) :
    mantissaAt unit num den ≤ 2 ^ 53 := by
  apply mantissaAt_le positive
  calc (num : ℚ) < 2 ^ e * den := below
    _ ≤ 2 ^ ((53 : Nat) + unit) * den :=
        mul_le_mul_of_nonneg_right (zpow_le_zpow_right₀ one_le_two room) (Nat.cast_nonneg den)
    _ = ((2 ^ 53 : Nat) : ℚ) * 2 ^ unit * den := by
        rw [zpow_add₀ two_ne_zero, zpow_natCast, Nat.cast_pow, Nat.cast_ofNat]

theorem le_mantissaAt_of_le (full : e = (52 : Nat) + unit) (above : (2 : ℚ) ^ e * den ≤ num) :
    2 ^ 52 ≤ mantissaAt unit num den := by
  apply le_mantissaAt positive
  calc ((2 ^ 52 : Nat) : ℚ) * 2 ^ unit * den = 2 ^ e * den := by
        rw [full, zpow_add₀ two_ne_zero, zpow_natCast, Nat.cast_pow, Nat.cast_ofNat]
    _ ≤ num := above

end Binade

/-- The bits stay below those of infinity exactly below the limit. -/
theorem nearestBits_lt_iff (some_num : 0 < num) (positive : 0 < den) :
    nearestBits num den < 2047 * 2 ^ 52 ↔ num < limit * den := by
  obtain ⟨top, above, below, bits⟩ := exists_top some_num positive
  rw [bits, min_lt_iff, or_iff_left (Nat.lt_irrefl _)]
  -- Only in the highest binade does it depend on the rounding.
  rcases Int.lt_trichotomy top 1023 with small | rfl | large
  · refine iff_of_true ?_ (lt_limit_of_lt positive (Int.add_one_le_of_lt small) below)
    have unit : max (top - 52) (-1074) ≤ 970 ∧ top + 1 ≤ (53 : Nat) + max (top - 52) (-1074) := by
      omega
    generalize max (top - 52) (-1074) = unit at *
    have mantissa := mantissaAt_le_of_lt positive unit.2 below
    unfold bitsAt
    split_ifs <;> omega
  · change bitsAt 971 (mantissaAt 971 num den) < _ ↔ _
    have place : (1023 : Int) = (52 : Nat) + 971 := by norm_num
    have full := le_mantissaAt_of_le positive place above
    rw [bitsAt_of_le full, ← Nat.not_le (a := limit * den), ← overflow_mantissaAt_iff positive]
    change 2045 * 2 ^ 52 + _ < _ ↔ _
    omega
  · refine iff_of_false ?_ (not_lt_limit_of_le positive (Int.add_one_le_of_lt large) above)
    have unit : max (top - 52) (-1074) = top - 52 := by omega
    have place : top = (52 : Nat) + (top - 52) := by omega
    have full := le_mantissaAt_of_le positive place above
    rw [unit, bitsAt_of_le full]
    omega

theorem nearestBits_le : nearestBits num den ≤ 2047 * 2 ^ 52 :=
  Nat.min_le_right _ _

/-- The double nearest to a quotient is finite exactly below the limit, whatever its sign. -/
theorem isFinite_nearest_iff (negative : Bool) (positive : 0 < den) :
    isFinite (nearest negative num den) = true ↔ num < limit * den := by
  have magnitude : ∀ bits, bits ≤ 2047 * 2 ^ 52 →
      (isFinite (Float.ofBits (UInt64.ofNat (if negative then bits + Nat.pow 2 63 else bits))) =
        true ↔ bits < 2047 * 2 ^ 52) := by
    intro bits inside
    have word : (UInt64.ofNat (if negative then bits + Nat.pow 2 63 else bits)).toNat % 2 ^ 63 =
        bits := by
      rw [UInt64.toNat_ofNat']
      change (if negative then bits + 2 ^ 63 else bits) % 2 ^ 64 % 2 ^ 63 = bits
      split_ifs <;> omega
    rw [isFinite_ofBits (by rw [word]; exact inside), word]
  unfold nearest
  dsimp only
  rw [magnitude _ (by split_ifs; exacts [Nat.zero_le _, nearestBits_le])]
  by_cases zero : num = 0
  · have some_limit : 0 < limit := by decide +kernel
    subst zero
    exact iff_of_true (show 0 < 2047 * 2 ^ 52 by decide) (Nat.mul_pos some_limit positive)
  · rw [if_neg (by simpa using zero)]
    exact nearestBits_lt_iff (Nat.pos_of_ne_zero zero) positive

end Rounding

end Bazaar.Decimal

namespace Bazaar.Number

open Decimal (limit)

/-- An integer is a double exactly below the limit. -/
theorem floatOfInt_eq_ok_iff (n : Int) : (∃ x, floatOfInt n = .ok x) ↔ n.natAbs < limit := by
  have finite := @Decimal.isFinite_nearest_iff n.natAbs 1 (n < 0) Nat.one_pos
  rw [Nat.mul_one] at finite
  rw [← finite]
  unfold floatOfInt
  dsimp only
  split_ifs with inside <;> simp [inside]

theorem floatOfInt_eq_error_iff (n : Int) :
    floatOfInt n = .error .intToFloat ↔ limit ≤ n.natAbs := by
  rw [← not_lt, ← floatOfInt_eq_ok_iff]
  unfold floatOfInt
  dsimp only
  split_ifs <;> simp

/-- A number becomes a double, but for an integer out of their range. -/
theorem toFloat_eq_error_iff {a : Number} {o : Overflow} :
    a.toFloat = .error o ↔ ∃ n, a = .int n ∧ limit ≤ n.natAbs ∧ o = .intToFloat := by
  cases a with
  | float x => simp [toFloat]
  | int n =>
      rcases Nat.lt_or_ge n.natAbs limit with small | wide
      · obtain ⟨x, converted⟩ := (floatOfInt_eq_ok_iff n).mpr small
        simp [toFloat, converted, small]
      · simp [toFloat, (floatOfInt_eq_error_iff n).mpr wide, wide, eq_comm]

/-- A quotient of integers is a double exactly below the limit. -/
theorem divideInt_eq_ok_iff (n : Int) {d : Nat} (positive : 0 < d) :
    (∃ x, divideInt n d = .ok x) ↔ n.natAbs < limit * d := by
  rw [← Decimal.isFinite_nearest_iff (n < 0) positive]
  unfold divideInt
  dsimp only
  split_ifs with inside <;> simp [inside]

end Bazaar.Number
