import Bazaar.Proofs.Decimal.Nearest

/-!
# Shortest decimals

The digits that are found for a positive double round to it.  Seventeen of them are always enough:
the grid is then finer than the interval that rounds to the double.
-/

namespace Bazaar.Decimal

/-! ## Powers of ten -/

theorem powerOfTen_snd_pos (place : Int) : 0 < (powerOfTen place).2 :=
  powerOf_snd_pos (by decide : 0 < 10) place

theorem cast_powerOfTen_fst (place : Int) :
    ((powerOfTen place).1 : ℚ) = 10 ^ place * ((powerOfTen place).2 : ℚ) :=
  cast_powerOf_fst (by decide : 0 < 10) place

theorem ten_zpow_pos (place : Int) : (0 : ℚ) < 10 ^ place :=
  zpow_pos (by norm_num) place

/-! ## One grid -/

section Grid

variable {m : Nat} {e place : Int}

/-- A number of quarters of a unit against a point of a grid, without fractions. -/
def scaled (e place : Int) : Nat × Nat :=
  ((powerOfTwo (e - 2)).1 * (powerOfTen place).2, (powerOfTen place).1 * (powerOfTwo (e - 2)).2)

/-- What both sides are multiplied with. -/
def scale (e place : Int) : ℚ :=
  (powerOfTwo (e - 2)).2 * (powerOfTen place).2

theorem scale_pos (e place : Int) : 0 < scale e place :=
  mul_pos (Nat.cast_pos.mpr (powerOfTwo_snd_pos _)) (Nat.cast_pos.mpr (powerOfTen_snd_pos _))

theorem cast_scaled_fst (e place : Int) : ((scaled e place).1 : ℚ) = 2 ^ (e - 2) * scale e place := by
  rw [scaled, scale, Nat.cast_mul, cast_powerOfTwo_fst]
  ring

theorem cast_scaled_snd (e place : Int) : ((scaled e place).2 : ℚ) = 10 ^ place * scale e place := by
  rw [scaled, scale, Nat.cast_mul, cast_powerOfTen_fst]
  ring

theorem scaled_le_iff (t k : Nat) :
    t * (scaled e place).1 ≤ k * (scaled e place).2 ↔ (t : ℚ) * 2 ^ (e - 2) ≤ k * 10 ^ place := by
  rw [← Nat.cast_le (α := ℚ), Nat.cast_mul, Nat.cast_mul, cast_scaled_fst, cast_scaled_snd,
    ← mul_assoc, ← mul_assoc]
  exact mul_le_mul_iff_left₀ (scale_pos e place)

theorem le_scaled_iff (t k : Nat) :
    k * (scaled e place).2 ≤ t * (scaled e place).1 ↔ (k : ℚ) * 10 ^ place ≤ t * 2 ^ (e - 2) := by
  rw [← Nat.cast_le (α := ℚ), Nat.cast_mul, Nat.cast_mul, cast_scaled_fst, cast_scaled_snd,
    ← mul_assoc, ← mul_assoc]
  exact mul_le_mul_iff_left₀ (scale_pos e place)

/-- Whether a point of a grid rounds to a double. -/
def readsBack (m : Nat) (e place : Int) (k : Nat) : Bool :=
  let (low, high) := roundingInterval m e
  let (left, right) := scaled e place
  if m % 2 == 0 then low * left ≤ k * right && k * right ≤ high * left
  else low * left < k * right && k * right < high * left

theorem readsBack_iff {k : Nat} : readsBack m e place k = true ↔ RoundsTo m e (k * 10 ^ place) := by
  have low := @scaled_le_iff e place (roundingInterval m e).1 k
  have high := @le_scaled_iff e place (roundingInterval m e).2 k
  have low' := not_congr (@le_scaled_iff e place (roundingInterval m e).1 k)
  have high' := not_congr (@scaled_le_iff e place (roundingInterval m e).2 k)
  rw [not_le, not_le] at low' high'
  unfold readsBack
  simp only [beq_iff_eq]
  split_ifs with even
  · rw [Bool.and_eq_true, decide_eq_true_iff, decide_eq_true_iff, low, high]
    exact ⟨fun ⟨above, below⟩ => ⟨above, below, fun odd => by omega⟩,
      fun rounds => ⟨rounds.above, rounds.below⟩⟩
  · rw [Bool.and_eq_true, decide_eq_true_iff, decide_eq_true_iff, low', high']
    exact ⟨fun inside => ⟨inside.1.le, inside.2.le, fun _ => inside⟩,
      fun rounds => rounds.inside (by omega)⟩

/-- The point of a grid at or below a double. -/
def gridFloor (m : Nat) (e place : Int) : Nat :=
  4 * m * (scaled e place).1 / (scaled e place).2

/-- A grid gives one of the two points around a double that rounds to it, or neither does. -/
theorem onGrid?_cases (m : Nat) (e place : Int) :
    (∃ k, onGrid? m e place = some k ∧ 0 < k ∧ readsBack m e place k = true) ∨
      onGrid? m e place = none ∧
        ¬(0 < gridFloor m e place ∧ readsBack m e place (gridFloor m e place) = true) ∧
        ¬readsBack m e place (gridFloor m e place + 1) = true := by
  have opened : onGrid? m e place =
      let below := gridFloor m e place
      let lowFits := decide (0 < below) && readsBack m e place below
      let highFits := readsBack m e place (below + 1)
      if lowFits && highFits then
        let toBelow := 4 * m * (scaled e place).1 - below * (scaled e place).2
        let toAbove := (below + 1) * (scaled e place).2 - 4 * m * (scaled e place).1
        if toBelow < toAbove then some below
        else if toAbove < toBelow then some (below + 1)
        else if below % 2 == 0 then some below else some (below + 1)
      else if lowFits then some below
      else if highFits then some (below + 1)
      else none := rfl
  rw [opened]
  dsimp only
  split_ifs <;> simp_all

theorem gridFloor_le (m : Nat) (e place : Int) :
    (gridFloor m e place : ℚ) * 10 ^ place ≤ (4 * m : Nat) * 2 ^ (e - 2) := by
  rw [← le_scaled_iff]
  exact Nat.div_mul_le_self _ _

theorem lt_gridFloor_succ (m : Nat) (e place : Int) :
    ((4 * m : Nat) : ℚ) * 2 ^ (e - 2) < (gridFloor m e place + 1 : Nat) * 10 ^ place := by
  have right : 0 < (scaled e place).2 := by
    have product : (0 : ℚ) < (scaled e place).2 := by
      rw [cast_scaled_snd]
      exact mul_pos (ten_zpow_pos place) (scale_pos e place)
    exact_mod_cast product
  rw [← not_le, ← le_scaled_iff, not_le]
  exact (Nat.div_lt_iff_lt_mul right).mp (Nat.lt_succ_self _)

/-- Strictly between the two half way points a number rounds to the double, whatever its
mantissa. -/
theorem RoundsTo.of_lt_of_lt {value : ℚ} (above : (roundingInterval m e).1 * 2 ^ (e - 2) < value)
    (below : value < (roundingInterval m e).2 * 2 ^ (e - 2)) : RoundsTo m e value :=
  ⟨above.le, below.le, fun _ => ⟨above, below⟩⟩

theorem fst_roundingInterval_lt (some_m : 0 < m) : (roundingInterval m e).1 < 4 * m := by
  by_cases lowest : IsLowest m e
  · rw [roundingInterval_of_isLowest lowest]
    dsimp only
    omega
  · rw [roundingInterval_of_not_isLowest lowest]
    dsimp only
    omega

/-- The interval of a double is wider than a grid that gives it seventeen digits. -/
theorem lt_width (placed : IsPlaced m e) (some_m : 0 < m) :
    4 * m + 10 ^ 16 * (roundingInterval m e).1 < 10 ^ 16 * (roundingInterval m e).2 := by
  have fits := placed.fits
  by_cases lowest : IsLowest m e
  · rw [roundingInterval_of_isLowest lowest, lowest.1]
    decide
  · rw [roundingInterval_of_not_isLowest lowest]
    dsimp only
    omega

theorem onGrid?_ne_none (placed : IsPlaced m e) (some_m : 0 < m)
    (fine : (10 : ℚ) ^ place * 10 ^ 16 ≤ (4 * m : Nat) * 2 ^ (e - 2)) :
    onGrid? m e place ≠ none := by
  have quarter : (0 : ℚ) < 2 ^ (e - 2) := zpow_pos two_pos _
  have step := ten_zpow_pos place
  have floor := gridFloor_le m e place
  have ceiling := lt_gridFloor_succ m e place
  have positive : 0 < gridFloor m e place := by
    by_contra none_there
    rw [Nat.eq_zero_of_not_pos none_there, zero_add, Nat.cast_one, one_mul] at ceiling
    linarith
  have width : ((4 * m + 10 ^ 16 * (roundingInterval m e).1 : Nat) : ℚ) <
      (10 ^ 16 * (roundingInterval m e).2 : Nat) := by exact_mod_cast lt_width placed some_m
  intro missed
  rcases onGrid?_cases m e place with ⟨k, found, -⟩ | ⟨-, notFloor, notCeiling⟩
  · rw [missed] at found
    cases found
  · have below : (gridFloor m e place : ℚ) * 10 ^ place ≤ (roundingInterval m e).1 * 2 ^ (e - 2) := by
      by_contra inside
      refine notFloor ⟨positive, readsBack_iff.mpr (.of_lt_of_lt (not_le.mp inside) ?_)⟩
      refine floor.trans_lt (mul_lt_mul_of_pos_right ?_ quarter)
      rw [snd_roundingInterval]
      exact_mod_cast Nat.lt_add_of_pos_right two_pos
    have above : ((roundingInterval m e).2 : ℚ) * 2 ^ (e - 2) ≤
        (gridFloor m e place + 1 : Nat) * 10 ^ place := by
      by_contra inside
      refine notCeiling (readsBack_iff.mpr (.of_lt_of_lt ?_ (not_le.mp inside)))
      refine lt_trans (mul_lt_mul_of_pos_right ?_ quarter) ceiling
      exact_mod_cast fst_roundingInterval_lt some_m
    -- If neither neighbour is inside, one step of the grid spans the whole interval.
    push_cast at *
    nlinarith

end Grid

/-! ## All grids -/

theorem lt_ten_pow_length (n : Nat) : n < 10 ^ (Text.digitsInBase 10 n).length :=
  (Nat.length_toDigits_le_iff (by decide) Nat.length_toDigits_pos).mp le_rfl

theorem ten_pow_length_le {n : Nat} (positive : 0 < n) :
    10 ^ ((Text.digitsInBase 10 n).length - 1) ≤ n := by
  by_contra less
  have some_digit : 0 < (Text.digitsInBase 10 n).length := Nat.length_toDigits_pos
  by_cases single : (Text.digitsInBase 10 n).length - 1 = 0
  · rw [single, pow_zero] at less
    exact less positive
  · have shorter := (Nat.length_toDigits_le_iff (by decide) (Nat.pos_of_ne_zero single)).mpr
      (not_le.mp less)
    change (Text.digitsInBase 10 n).length ≤ _ at shorter
    omega

/-- A quotient is not below the power of ten of its first digit. -/
theorem firstDigitPlace_le {num den : Nat} (some_num : 0 < num) (positive : 0 < den) :
    (10 : ℚ) ^ firstDigitPlace num den * den ≤ num := by
  unfold firstDigitPlace
  split
  · rename_i whole
    have power := ten_pow_length_le (Nat.div_pos whole positive)
    have some_digit : 0 < (Text.digitsInBase 10 (num / den)).length := Nat.length_toDigits_pos
    generalize (Text.digitsInBase 10 (num / den)).length = length at *
    have exponent : (length : Int) - 1 = (length - 1 : Nat) := by omega
    rw [exponent, zpow_natCast]
    exact_mod_cast (Nat.le_div_iff_mul_le positive).mp power
  · have power := lt_ten_pow_length ((den - 1) / num)
    generalize (Text.digitsInBase 10 ((den - 1) / num)).length = length at *
    have above : den ≤ num * 10 ^ length := by
      have product := (Nat.div_lt_iff_lt_mul some_num).mp power
      rw [Nat.mul_comm num]
      omega
    rw [zpow_neg, zpow_natCast, inv_mul_le_iff₀ (by positivity), mul_comm]
    exact_mod_cast above

section Search

variable {m : Nat} {e first : Int}

/-- The search ends with the first grid that has a point. -/
theorem searchDigits_roundsTo {fuel count : Nat}
    (reached : ∃ c, count ≤ c ∧ c < count + fuel ∧ onGrid? m e (first - c + 1) ≠ none) :
    RoundsTo m e ((searchDigits m e first fuel count).1 *
      10 ^ (searchDigits m e first fuel count).2) := by
  induction fuel generalizing count with
  | zero =>
      obtain ⟨c, from_count, below, -⟩ := reached
      omega
  | succ fuel ih =>
      rw [searchDigits]
      rcases onGrid?_cases m e (first - count + 1) with ⟨k, found, -, rounds⟩ | ⟨missed, -⟩
      · rw [found]
        exact readsBack_iff.mp rounds
      · rw [missed]
        obtain ⟨c, from_count, below, grid⟩ := reached
        have next : count ≠ c := by
          rintro rfl
          exact grid missed
        exact ih ⟨c, by omega, by omega, grid⟩

/-- Zeros that move into the exponent do not change the number. -/
theorem dropZeros_value (fuel digits : Nat) (place : Int) :
    ((dropZeros fuel digits place).1 : ℚ) * 10 ^ (dropZeros fuel digits place).2 =
      digits * 10 ^ place := by
  induction fuel generalizing digits place with
  | zero => rfl
  | succ fuel ih =>
      rw [dropZeros]
      split
      · rename_i zero
        obtain ⟨-, last⟩ : 0 < digits ∧ digits % 10 = 0 := by simpa using zero
        have whole : digits = digits / 10 * 10 := by omega
        rw [ih, zpow_add_one₀ (by norm_num)]
        conv_rhs => rw [whole]
        push_cast
        ring
      · rfl

/-- The shortest digits of a double round to it. -/
theorem shortest_roundsTo (placed : IsPlaced m e) (some_m : 0 < m) :
    RoundsTo m e ((shortest m e).1 * 10 ^ (shortest m e).2) := by
  have some_up : 0 < (powerOfTwo e).1 := by
    have product := den_mul_powerOfTwo_pos Nat.one_pos e
    rwa [Nat.one_mul] at product
  have some_down : (0 : ℚ) < (powerOfTwo e).2 := by exact_mod_cast powerOfTwo_snd_pos e
  let first := firstDigitPlace (m * (powerOfTwo e).1) (powerOfTwo e).2
  have within : (10 : ℚ) ^ first ≤ m * 2 ^ e := by
    have bound := firstDigitPlace_le (Nat.mul_pos some_m some_up) (powerOfTwo_snd_pos e)
    rw [Nat.cast_mul, cast_powerOfTwo_fst, ← mul_assoc] at bound
    exact le_of_mul_le_mul_right bound some_down
  have fine : (10 : ℚ) ^ (first - (17 : Nat) + 1) * 10 ^ 16 ≤ (4 * m : Nat) * 2 ^ (e - 2) := by
    have place : first = first - (17 : Nat) + 1 + (16 : Nat) := by omega
    rw [place, zpow_add₀ (by norm_num), zpow_natCast, zpow_eq_quarters e] at within
    push_cast at within ⊢
    linarith
  have found : RoundsTo m e
      ((searchDigits m e first 18 1).1 * 10 ^ (searchDigits m e first 18 1).2) :=
    searchDigits_roundsTo ⟨17, by decide, by decide, onGrid?_ne_none placed some_m fine⟩
  have dropped : shortest m e =
      dropZeros 20 (searchDigits m e first 18 1).1 (searchDigits m e first 18 1).2 := rfl
  rw [dropped, dropZeros_value]
  exact found

end Search

end Bazaar.Decimal
