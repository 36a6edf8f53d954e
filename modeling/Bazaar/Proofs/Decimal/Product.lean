import Bazaar.Proofs.Decimal.Nearest

/-!
# Products of doubles

A product is rounded in the place that its highest bit asks for.  In a place below the unit whole
numbers have their own doubles, so a product that is at most a whole number is not rounded beyond
it.
-/

namespace Bazaar.Decimal

open Float.Model (Format UnpackedFloat totalExponent)
open Float.Model.UnpackedFloat

/-! ## Shifts -/

section Shift

variable {m places bound : Nat}

theorem mantissa_shift (em : ExtendedMantissa) (places : Nat) :
    (places.repeat ExtendedMantissa.shiftRightOne em).mantissa = em.mantissa / 2 ^ places := by
  induction places with
  | zero => simp [Nat.repeat]
  | succ places ih =>
      rw [Nat.repeat, ExtendedMantissa.shiftRightOne, ih, Nat.div_div_eq_div_mul, pow_succ]

theorem roundedMantissa_bounds (em : ExtendedMantissa) :
    em.mantissa ≤ em.roundedMantissa ∧ em.roundedMantissa ≤ em.mantissa + 1 := by
  obtain ⟨mantissa, roundBit, stickyBit⟩ := em
  cases roundBit <;> cases stickyBit <;>
    simp only [ExtendedMantissa.roundedMantissa, ExtendedMantissa.accuracy,
      Accuracy.roundToNearestEven] <;> omega

theorem le_roundedMantissa (m places : Nat) :
    m / 2 ^ places ≤
      (places.repeat ExtendedMantissa.shiftRightOne ⟨m, false, false⟩).roundedMantissa := by
  have lower := (roundedMantissa_bounds
    (places.repeat ExtendedMantissa.shiftRightOne ⟨m, false, false⟩)).1
  rwa [mantissa_shift] at lower

/-- What is at most a multiple of a place is not rounded beyond it in that place. -/
theorem roundedMantissa_le (atMost : m ≤ bound * 2 ^ places) :
    (places.repeat ExtendedMantissa.shiftRightOne ⟨m, false, false⟩).roundedMantissa ≤ bound := by
  rcases Nat.eq_or_lt_of_le atMost with rfl | below
  · rw [repeat_shiftRightOne]
    exact le_rfl
  · have upper := (roundedMantissa_bounds
      (places.repeat ExtendedMantissa.shiftRightOne ⟨m, false, false⟩)).2
    rw [mantissa_shift] at upper
    exact upper.trans ((Nat.div_lt_iff_lt_mul (Nat.two_pow_pos places)).mpr below)

/-- The place in which a mantissa has all its bits, or else the lowest one. -/
def placeOf (m : Nat) (e : Int) : Int :=
  max (m.log2 + e - 52) (-1074)

theorem le_placeOf (m : Nat) (e : Int) : -1074 ≤ placeOf m e :=
  le_max_right _ _

theorem shiftToTargetExponent_eq (m : Nat) (e : Int) :
    shiftToTargetExponent Format.binary64 m e .exact =
      ((placeOf m e - e).toNat.repeat ExtendedMantissa.shiftRightOne ⟨m, false, false⟩,
        e + (placeOf m e - e).toNat) := by
  have target : Format.binary64.targetExponent (totalExponent m e) = placeOf m e := by
    have width : (Format.binary64.mantissaBits : Int) = 53 := rfl
    have least : Format.binary64.minExponent = -1074 := rfl
    unfold Format.targetExponent totalExponent placeOf
    rw [width, least]
    omega
  unfold shiftToTargetExponent
  rw [target]
  rfl

end Shift

/-! ## Rounding -/

section Rounding

variable {m : Nat} {e : Int}

theorem two_pow_log2_le (some_m : 0 < m) (places : Nat) (enough : places ≤ m.log2) :
    2 ^ places ≤ m / 2 ^ (m.log2 - places) := by
  rw [Nat.le_div_iff_mul_le (Nat.two_pow_pos _), ← pow_add, Nat.add_sub_cancel' enough]
  exact Nat.log2_self_le some_m.ne'

theorem le_log2 (full : 2 ^ 52 ≤ m) : 52 ≤ m.log2 :=
  (Nat.le_log2 (Nat.pos_of_ne_zero (by rintro rfl; simp at full)).ne').mpr full

/-- A mantissa with all its bits is cut back to a place of doubles. -/
theorem isPlaced_cut (r : Nat) {p : Int} (low : -1074 ≤ p) (full : 2 ^ 52 ≤ r ∨ p = -1074) :
    IsPlaced (r / 2 ^ (placeOf r p - p).toNat) (p + (placeOf r p - p).toNat) := by
  have width : r.log2 + 1 ≤ 53 + (placeOf r p - p).toNat := by
    unfold placeOf
    omega
  refine ⟨?_, by omega, ?_⟩
  · rw [Nat.div_lt_iff_lt_mul (Nat.two_pow_pos _), ← pow_add]
    exact Nat.lt_log2_self.trans_le (Nat.pow_le_pow_right two_pos width)
  · by_cases some_bits : 52 ≤ r.log2
    · left
      have places : (placeOf r p - p).toNat = r.log2 - 52 := by
        unfold placeOf
        omega
      rw [places]
      refine two_pow_log2_le (Nat.pos_of_ne_zero ?_) 52 some_bits
      rintro rfl
      simp at some_bits
    · right
      have lowest : p = -1074 := full.resolve_left fun all => some_bits (le_log2 all)
      unfold placeOf
      omega

/-- A mantissa that is rounded in its place has all its bits there, or the place is the lowest. -/
theorem full_roundedMantissa (full : 2 ^ 52 ≤ m) (e : Int) :
    2 ^ 52 ≤ ((placeOf m e - e).toNat.repeat ExtendedMantissa.shiftRightOne
      ⟨m, false, false⟩).roundedMantissa ∨ placeOf m e = -1074 := by
  have some_bits := le_log2 full
  rcases le_or_gt (m.log2 + e - 52) (-1074) with low | high
  · exact .inr (max_eq_right low)
  · left
    have places : (placeOf m e - e).toNat = m.log2 - 52 := by
      unfold placeOf
      omega
    have kept := le_roundedMantissa m (placeOf m e - e).toNat
    rw [places] at kept ⊢
    exact (two_pow_log2_le (Nat.pos_of_ne_zero (by rintro rfl; simp at full)) 52 some_bits).trans
      kept

/-- A number below 2 ^ 52 that is at most a whole number is not rounded beyond it. -/
theorem roundedMantissa_mul_le {bound : Nat} (full : 2 ^ 52 ≤ m) (small : bound < 2 ^ 52)
    (atMost : (m : ℚ) * 2 ^ e ≤ bound) :
    (((placeOf m e - e).toNat.repeat ExtendedMantissa.shiftRightOne
      ⟨m, false, false⟩).roundedMantissa : ℚ) * 2 ^ placeOf m e ≤ bound := by
  have some_bits := le_log2 full
  have some_m : 0 < m := Nat.pos_of_ne_zero (by rintro rfl; simp at full)
  have below : m.log2 + e < 52 := by
    rw [← zpow_lt_zpow_iff_right₀ (one_lt_two (α := ℚ))]
    calc (2 : ℚ) ^ (m.log2 + e) = 2 ^ m.log2 * 2 ^ e := by
          rw [zpow_add₀ two_ne_zero, zpow_natCast]
      _ ≤ m * 2 ^ e := by
          gcongr
          exact_mod_cast Nat.log2_self_le some_m.ne'
      _ ≤ bound := atMost
      _ < 2 ^ (52 : Int) := by exact_mod_cast small
  have place : e ≤ placeOf m e ∧ placeOf m e ≤ 0 := by
    unfold placeOf
    omega
  obtain ⟨fine, isFine⟩ := Int.exists_eq_neg_ofNat place.2
  obtain ⟨cut, isCut⟩ : ∃ cut : Nat, (placeOf m e - e).toNat = cut := ⟨_, rfl⟩
  rw [isCut, isFine]
  have grid : m ≤ bound * 2 ^ fine * 2 ^ cut := by
    have exponent : e = -((fine + cut : Nat) : Int) := by omega
    rw [exponent, zpow_neg, zpow_natCast, ← div_eq_mul_inv, div_le_iff₀ (by positivity)] at atMost
    rw [mul_assoc, ← pow_add]
    exact_mod_cast atMost
  have rounded := roundedMantissa_le grid
  rw [zpow_neg, zpow_natCast, ← div_eq_mul_inv, div_le_iff₀ (by positivity)]
  exact_mod_cast rounded

/-- What a mantissa with all its bits is rounded to. -/
theorem roundWithAccuracy_cases (negative : Bool) (full : 2 ^ 52 ≤ m) (e : Int) :
    ∃ r p, IsPlaced r p ∧
      roundWithAccuracy Format.binary64 (signOf negative) m e .exact =
        partsOf (.finite negative r p) ∧
      ∀ bound : Nat, bound < 2 ^ 52 → (m : ℚ) * 2 ^ e ≤ bound → (r : ℚ) * 2 ^ p ≤ bound := by
  have some_bits := le_log2 full
  have place : e + (placeOf m e - e).toNat = placeOf m e := by
    have above : e ≤ placeOf m e := by
      unfold placeOf
      omega
    omega
  obtain ⟨rounded, isRounded⟩ : ∃ rounded, ((placeOf m e - e).toNat.repeat
      ExtendedMantissa.shiftRightOne ⟨m, false, false⟩).roundedMantissa = rounded := ⟨_, rfl⟩
  have full' := full_roundedMantissa full e
  rw [isRounded] at full'
  refine ⟨_, _, isPlaced_cut rounded (le_placeOf m e) full', ?_, fun bound small atMost => ?_⟩
  · unfold roundWithAccuracy
    rw [shiftToTargetExponent_eq]
    dsimp only
    rw [isRounded, place, shiftToTargetExponent_eq]
    dsimp only
    rw [mantissa_shift]
    rfl
  · have kept := roundedMantissa_mul_le full small atMost
    rw [isRounded] at kept
    refine le_trans ?_ kept
    generalize (placeOf rounded (placeOf m e) - placeOf m e).toNat = cut
    rw [zpow_add₀ two_ne_zero, zpow_natCast, mul_comm ((2 : ℚ) ^ placeOf m e), ← mul_assoc]
    refine mul_le_mul_of_nonneg_right ?_ (zpow_pos two_pos _).le
    exact_mod_cast Nat.div_mul_le_self rounded (2 ^ cut)

end Rounding

/-! ## Doubles by what they stand for -/

section Existence

variable {m : Nat} {e : Int}

/-- Every mantissa in its place is that of a double. -/
theorem exists_read (negative : Bool) (placed : IsPlaced m e) (inRange : e ≤ 971) :
    ∃ x, read x = .finite negative m e := by
  have bits := bitsAt_lt placed.fits inRange
  have sign := @toNat_ofNat_sign negative (bitsAt e m) (by omega)
  let word := UInt64.ofNat (if negative then bitsAt e m + Nat.pow 2 63 else bitsAt e m)
  have written : (Float.ofBits word).toBits.toNat =
      (if negative then 2 ^ 63 else 0) + bitsAt e m := by
    rw [toBits_ofBits (by rw [sign]; split_ifs <;> omega), sign]
  refine ⟨Float.ofBits word, ?_⟩
  have low := placed.inRange
  have fits := placed.fits
  by_cases full : 2 ^ 52 ≤ m
  · have spelled : bitsAt e m = (e + 1075).toNat * 2 ^ 52 + (m - 2 ^ 52) := by
      rw [bitsAt_of_le full]
      omega
    have exponent : ((e + 1075).toNat : Int) - 1075 = e := by omega
    rw [spelled] at written
    rw [read_eq (by omega) (by omega) written, if_neg (by omega), Nat.sub_add_cancel full, exponent]
  · obtain rfl := placed.full.resolve_left full
    have spelled : bitsAt (-1074) m = 0 * 2 ^ 52 + m := by
      rw [bitsAt, if_pos (Nat.not_le.mp full), Nat.zero_mul, Nat.zero_add]
    rw [spelled] at written
    rw [read_eq (by decide) (Nat.not_le.mp full) written, if_pos rfl]

end Existence

/-! ## Products -/

section Product

variable {x y : Float} {negative negative' : Bool} {m m' : Nat} {e e' : Int}

theorem exists_signOf_mul (negative negative' : Bool) :
    ∃ negative'', signOf negative * signOf negative' = signOf negative'' := by
  cases negative <;> cases negative'
  · exact ⟨false, rfl⟩
  · exact ⟨true, rfl⟩
  · exact ⟨true, rfl⟩
  · exact ⟨false, rfl⟩

/-- A place is in range if a number in it is small. -/
theorem IsPlaced.le_of_atMost (placed : IsPlaced m e) {bound : Nat} (small : bound < 2 ^ 52)
    (atMost : (m : ℚ) * 2 ^ e ≤ bound) : e ≤ 971 := by
  by_contra high
  have full : (1 : ℚ) ≤ m := by
    have natural : 2 ^ 52 ≤ m := placed.full.resolve_right (by omega)
    exact_mod_cast natural.trans' (by decide)
  have large : (2 : ℚ) ^ (52 : Int) ≤ bound :=
    calc (2 : ℚ) ^ (52 : Int) ≤ 2 ^ e := zpow_le_zpow_right₀ one_le_two (by omega)
      _ ≤ m * 2 ^ e := le_mul_of_one_le_left (zpow_pos two_pos e).le full
      _ ≤ bound := atMost
  exact absurd (show 2 ^ 52 ≤ bound by exact_mod_cast large) small.not_ge

/-- The double with the parts of a reading has that reading. -/
theorem read_pack (negative : Bool) (placed : IsPlaced m e) (inRange : e ≤ 971) :
    read (Float.ofModel (Float.Model.pack (partsOf (.finite negative m e)))) =
      .finite negative m e := by
  obtain ⟨x, reads⟩ := exists_read negative placed inRange
  rw [← reads, ← unpack_eq, ofModel_pack_unpack]

/-- A product with a double that has all its bits is rounded once. -/
theorem mul_cases (negative negative' : Bool) (m : Nat) (e e' : Int) (full : 2 ^ 52 ≤ m') :
    ∃ negative'' r p, IsPlaced r p ∧
      UnpackedFloat.mul Format.binary64 (partsOf (.finite negative m e))
        (partsOf (.finite negative' m' e')) = partsOf (.finite negative'' r p) ∧
      ∀ bound : Nat, bound < 2 ^ 52 → (m : ℚ) * 2 ^ e * (m' * 2 ^ e') ≤ bound →
        (r : ℚ) * 2 ^ p ≤ bound := by
  have some_m' : 0 < m' := Nat.lt_of_lt_of_le (by decide) full
  obtain ⟨negative'', sign⟩ := exists_signOf_mul negative negative'
  rw [partsOf_pos some_m']
  rcases Nat.eq_zero_or_pos m with rfl | some_m
  · refine ⟨negative'', 0, -1074, ⟨by decide, le_rfl, .inr rfl⟩, ?_, fun bound _ _ => by simp⟩
    rw [partsOf, partsOf, dif_pos rfl, dif_pos rfl, ← sign]
    rfl
  · obtain ⟨r, p, placed, rounds, kept⟩ := roundWithAccuracy_cases negative''
      (full.trans (Nat.le_mul_of_pos_left m' some_m)) (e + e')
    refine ⟨negative'', r, p, placed, ?_, fun bound small atMost => kept bound small ?_⟩
    · rw [partsOf_pos some_m, ← rounds, ← sign]
      rfl
    · calc ((m * m' : Nat) : ℚ) * 2 ^ (e + e') = m * 2 ^ e * (m' * 2 ^ e') := by
            rw [zpow_add₀ two_ne_zero]
            push_cast
            ring
        _ ≤ bound := atMost

/-- A product that is at most a whole number is not rounded beyond it. -/
theorem mul_atMost (reads : read x = .finite negative m e)
    (reads' : read y = .finite negative' m' e') (full : 2 ^ 52 ≤ m') {bound : Nat}
    (small : bound < 2 ^ 52) (atMost : (m : ℚ) * 2 ^ e * (m' * 2 ^ e') ≤ bound) :
    ∃ negative'' r p, read (x * y) = .finite negative'' r p ∧ (r : ℚ) * 2 ^ p ≤ bound := by
  obtain ⟨negative'', r, p, placed, product, kept⟩ :=
    mul_cases negative negative' m e e' full
  have least := kept bound small atMost
  refine ⟨negative'', r, p, ?_, least⟩
  rw [← read_pack negative'' placed (placed.le_of_atMost small least), ← product, ← reads, ← reads',
    ← unpack_eq, ← unpack_eq]
  rfl

end Product

/-! ## Proper fractions -/

section Fraction

variable {m num den : Nat} {e : Int}

/-- The bits of a proper fraction are at most those of one. -/
theorem nearestBits_le_one (some_num : 0 < num) (proper : num < den) :
    nearestBits num den ≤ 1023 * 2 ^ 52 := by
  have positive : 0 < den := some_num.trans proper
  obtain ⟨top, above, below, bits⟩ := exists_top some_num positive
  have low : top < 0 := by
    rw [← zpow_lt_zpow_iff_right₀ (one_lt_two (α := ℚ)), zpow_zero]
    have some_den : (0 : ℚ) < den := by exact_mod_cast positive
    have lower : (num : ℚ) < den := by exact_mod_cast proper
    nlinarith
  have unit : max (top - 52) (-1074) ≤ -53 ∧ top + 1 ≤ (53 : Nat) + max (top - 52) (-1074) := by
    omega
  rw [bits]
  generalize max (top - 52) (-1074) = unit at *
  have mantissa := mantissaAt_le_of_lt positive unit.2 below
  refine (Nat.min_le_left _ _).trans ?_
  unfold bitsAt
  split_ifs <;> omega

theorem atMost_one_of_bitsAt (placed : IsPlaced m e) (bits : bitsAt e m ≤ 1023 * 2 ^ 52) :
    (m : ℚ) * 2 ^ e ≤ 1 := by
  have fits : (m : ℚ) ≤ 2 ^ (53 : Nat) := by exact_mod_cast placed.fits.le
  rcases le_or_gt e (-53) with low | high
  · calc (m : ℚ) * 2 ^ e ≤ 2 ^ (53 : Nat) * 2 ^ (-53 : Int) :=
          mul_le_mul fits (zpow_le_zpow_right₀ one_le_two low) (zpow_pos two_pos e).le
            (by positivity)
      _ = 1 := by norm_num
  · have full : 2 ^ 52 ≤ m := placed.full.resolve_right (by omega)
    rw [bitsAt_of_le full] at bits
    obtain ⟨rfl, rfl⟩ : e = -52 ∧ m = 2 ^ 52 := by omega
    norm_num

/-- The double nearest to a proper fraction is at most one in size. -/
theorem nearest_atMost_one (negative : Bool) (proper : num < den) :
    ∃ negative' m e, read (nearest negative num den) = .finite negative' m e ∧
      (m : ℚ) * 2 ^ e ≤ 1 := by
  let magnitude := if num == 0 then 0 else nearestBits num den
  have small : magnitude ≤ 1023 * 2 ^ 52 := by
    unfold magnitude
    split
    · exact Nat.zero_le _
    · rename_i some_num
      exact nearestBits_le_one (Nat.pos_of_ne_zero (by simpa using some_num)) proper
  have sign := @toNat_ofNat_sign negative magnitude (by omega)
  have written : (nearest negative num den).toBits.toNat =
      (if negative then 2 ^ 63 else 0) + magnitude := by
    unfold nearest
    dsimp only
    rw [toBits_ofBits, sign]
    rw [sign]
    split_ifs <;> omega
  have finite : isFinite (nearest negative num den) = true := by
    rw [isFinite_iff, written]
    split_ifs <;> omega
  cases reads : read (nearest negative num den) with
  | nan => simp [isFinite, reads] at finite
  | infinite _ => simp [isFinite, reads] at finite
  | finite negative' m e =>
      have placed := isPlaced_of_read reads
      have bits := bitsAt_lt placed.fits (exponent_le_of_read reads)
      have same := written.symm.trans (toBits_eq_bitsAt reads)
      refine ⟨negative', m, e, rfl, atMost_one_of_bitsAt placed ?_⟩
      split_ifs at same <;> omega

end Fraction

end Bazaar.Decimal
