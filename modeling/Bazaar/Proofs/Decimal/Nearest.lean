import Bazaar.Decimal.Shortest
import Bazaar.Proofs.Decimal.Equal

/-!
# What rounds to a double

A positive number rounds to a double if it lies between the two points half way to its neighbours;
the points themselves round to it if its mantissa is even.  Below a power of two the neighbour is
half as far.
-/

namespace Bazaar.Decimal

/-- A number within the interval that rounds to `m · 2 ^ e`. -/
structure RoundsTo (m : Nat) (e : Int) (value : ℚ) : Prop where
  above : (roundingInterval m e).1 * 2 ^ (e - 2) ≤ value
  below : value ≤ (roundingInterval m e).2 * 2 ^ (e - 2)
  inside : m % 2 = 1 → (roundingInterval m e).1 * 2 ^ (e - 2) < value ∧
    value < (roundingInterval m e).2 * 2 ^ (e - 2)

/-- A mantissa below whose number the neighbour is half as far. -/
def IsLowest (m : Nat) (e : Int) : Prop :=
  m = 2 ^ 52 ∧ -1074 < e

section Interval

variable {m : Nat} {e : Int}

theorem roundingInterval_of_isLowest (lowest : IsLowest m e) :
    roundingInterval m e = (4 * m - 1, 4 * m + 2) := by
  have least : (m == Nat.pow 2 52 && decide (-1074 < e)) = true := by
    rw [Bool.and_eq_true, beq_iff_eq, decide_eq_true_iff]
    exact lowest
  rw [roundingInterval, if_pos least]

theorem roundingInterval_of_not_isLowest (notLowest : ¬IsLowest m e) :
    roundingInterval m e = (4 * m - 2, 4 * m + 2) := by
  have notLeast : ¬(m == Nat.pow 2 52 && decide (-1074 < e)) = true := by
    rw [Bool.and_eq_true, beq_iff_eq, decide_eq_true_iff]
    exact notLowest
  rw [roundingInterval, if_neg notLeast]

theorem snd_roundingInterval (m : Nat) (e : Int) : (roundingInterval m e).2 = 4 * m + 2 :=
  rfl

/-- A unit in the last place is four quarters of it. -/
theorem zpow_eq_quarters (e : Int) : (2 : ℚ) ^ e = 4 * 2 ^ (e - 2) := by
  rw [zpow_sub₀ two_ne_zero]
  norm_num
  ring

namespace RoundsTo

variable {value : ℚ}

/-- A number is at most half a unit above the double that it rounds to. -/
theorem le (rounds : RoundsTo m e value) : value ≤ (m + 1 / 2) * 2 ^ e := by
  have below := rounds.below
  rw [snd_roundingInterval] at below
  rw [zpow_eq_quarters e]
  push_cast at below
  linarith

/-- Below a power of two, a number is at most a quarter of a unit below it. -/
theorem ge_of_isLowest (rounds : RoundsTo m e value) (lowest : IsLowest m e) :
    (2 ^ 52 - 1 / 4 : ℚ) * 2 ^ e ≤ value := by
  obtain ⟨rfl, -⟩ := id lowest
  have above := rounds.above
  rw [roundingInterval_of_isLowest lowest, Nat.cast_sub (by omega)] at above
  rw [zpow_eq_quarters e]
  push_cast at above
  linarith

/-- A number is at most half a unit below the double that it rounds to. -/
theorem ge (rounds : RoundsTo m e value) (some_m : 0 < m) : (m - 1 / 2 : ℚ) * 2 ^ e ≤ value := by
  by_cases lowest : IsLowest m e
  · refine le_trans (mul_le_mul_of_nonneg_right ?_ (zpow_pos two_pos e).le)
      (rounds.ge_of_isLowest lowest)
    rw [lowest.1]
    norm_num
  · have above := rounds.above
    rw [roundingInterval_of_not_isLowest lowest, Nat.cast_sub (by omega)] at above
    rw [zpow_eq_quarters e]
    push_cast at above
    linarith

theorem lt_and_lt (rounds : RoundsTo m e value) (odd : m % 2 = 1) :
    (m - 1 / 2 : ℚ) * 2 ^ e < value ∧ value < (m + 1 / 2) * 2 ^ e := by
  have notLowest : ¬IsLowest m e := by
    rintro ⟨rfl, -⟩
    omega
  have inside := rounds.inside odd
  rw [roundingInterval_of_not_isLowest notLowest, Nat.cast_sub (by omega)] at inside
  obtain ⟨above, below⟩ := inside
  rw [zpow_eq_quarters e]
  push_cast at above below
  constructor <;> linarith

theorem pos (rounds : RoundsTo m e value) (some_m : 0 < m) : 0 < value := by
  have one : (1 : ℚ) ≤ m := by exact_mod_cast some_m
  exact lt_of_lt_of_le (mul_pos (by linarith) (zpow_pos two_pos e)) (rounds.ge some_m)

end RoundsTo

end Interval

/-! ## The nearest double -/

section Nearest

variable {m num den : Nat} {e : Int} {value : ℚ}

/-- A quotient is rounded to a number that is at most a half away, if that number is even. -/
theorem roundQuotient_eq {k : Nat} (positive : 0 < den) (above : 2 * k * den ≤ 2 * num + den)
    (below : 2 * num ≤ (2 * k + 1) * den)
    (inside : k % 2 = 1 → 2 * k * den < 2 * num + den ∧ 2 * num < (2 * k + 1) * den) :
    roundQuotient num den = k := by
  have split := Nat.div_add_mod num den
  have rest := Nat.mod_lt num positive
  unfold roundQuotient
  dsimp only
  generalize num / den = whole at *
  generalize num % den = part at *
  subst split
  have notBelow : k ≤ whole + 1 := by
    by_contra far
    have product := Nat.mul_le_mul_right den (show whole + 2 ≤ k by omega)
    nlinarith
  have notAbove : whole ≤ k := by
    by_contra far
    have product := Nat.mul_le_mul_right den (show k + 1 ≤ whole by omega)
    nlinarith
  rcases Nat.eq_or_lt_of_le notAbove with rfl | next
  · have half : 2 * part ≤ den := by nlinarith
    have strict : whole % 2 = 1 → 2 * part < den := fun odd => by
      have := (inside odd).2
      nlinarith
    simp only [beq_iff_eq]
    split_ifs <;> omega
  · obtain rfl : k = whole + 1 := by omega
    have half : den ≤ 2 * part := by nlinarith
    have strict : (whole + 1) % 2 = 1 → den < 2 * part := fun odd => by
      have := (inside odd).1
      nlinarith
    simp only [beq_iff_eq]
    split_ifs <;> omega

/-- The mantissa of a number in a unit, if the number is at most half a unit away from it. -/
theorem mantissaAt_eq {unit : Int} {k : Nat} (positive : 0 < den) (same : (num : ℚ) = value * den)
    (above : (k - 1 / 2 : ℚ) * 2 ^ unit ≤ value) (below : value ≤ (k + 1 / 2 : ℚ) * 2 ^ unit)
    (inside : k % 2 = 1 → (k - 1 / 2 : ℚ) * 2 ^ unit < value ∧
      value < (k + 1 / 2 : ℚ) * 2 ^ unit) :
    mantissaAt unit num den = k := by
  have down : (0 : ℚ) < (powerOfTwo unit).2 := by exact_mod_cast powerOfTwo_snd_pos unit
  have up := cast_powerOfTwo_fst unit
  have scale : (0 : ℚ) < den * (powerOfTwo unit).2 :=
    mul_pos (by exact_mod_cast positive) down
  -- Both sides are compared as multiples of the denominators of the quotient and of the power.
  have first : (num : ℚ) * (powerOfTwo unit).2 = value * (den * (powerOfTwo unit).2) := by
    rw [same, mul_assoc]
  have second : (den : ℚ) * (powerOfTwo unit).1 = 2 ^ unit * (den * (powerOfTwo unit).2) := by
    rw [up]
    ring
  have above' := mul_le_mul_of_nonneg_right above scale.le
  have below' := mul_le_mul_of_nonneg_right below scale.le
  have inside' (odd : k % 2 = 1) := And.intro (mul_lt_mul_of_pos_right (inside odd).1 scale)
    (mul_lt_mul_of_pos_right (inside odd).2 scale)
  apply roundQuotient_eq (den_mul_powerOfTwo_pos positive unit)
  · rw [← Nat.cast_le (α := ℚ)]
    push_cast
    rw [first, second]
    linarith
  · rw [← Nat.cast_le (α := ℚ)]
    push_cast
    rw [first, second]
    linarith
  · intro odd
    have strict := inside' odd
    rw [← Nat.cast_lt (α := ℚ), ← Nat.cast_lt (α := ℚ)]
    push_cast
    rw [first, second]
    constructor <;> linarith

/-- Where the highest place of a number leaves the place of the double that it rounds to. -/
theorem RoundsTo.unit_cases {top : Int} (placed : IsPlaced m e) (some_m : 0 < m)
    (rounds : RoundsTo m e value) (above : (2 : ℚ) ^ top ≤ value) (below : value < 2 ^ (top + 1)) :
    max (top - 52) (-1074) = e ∨
      IsLowest m e ∧ max (top - 52) (-1074) = e - 1 ∧ value < 2 ^ 52 * 2 ^ e := by
  have unit : (0 : ℚ) < 2 ^ e := zpow_pos two_pos e
  have shift (n : Nat) : (2 : ℚ) ^ (n + e) = 2 ^ n * 2 ^ e := by
    rw [zpow_add₀ two_ne_zero, zpow_natCast]
  have grows {a b : Int} (less : (2 : ℚ) ^ a < 2 ^ b) : a < b :=
    (zpow_lt_zpow_iff_right₀ one_lt_two).mp less
  have inRange := placed.inRange
  have fits : (m : ℚ) + 1 ≤ 2 ^ 53 := by exact_mod_cast placed.fits
  -- Above the place of the double there would be no room for its mantissa.
  have notAbove : top < (53 : Nat) + e := by
    apply grows
    calc (2 : ℚ) ^ top ≤ value := above
      _ ≤ (m + 1 / 2) * 2 ^ e := rounds.le
      _ < 2 ^ 53 * 2 ^ e := mul_lt_mul_of_pos_right (by linarith) unit
      _ = 2 ^ ((53 : Nat) + e) := (shift 53).symm
  by_cases inPlace : max (top - 52) (-1074) = e
  · exact .inl inPlace
  · right
    have lower : top + 1 ≤ (52 : Nat) + e := by omega
    have full : 2 ^ 52 ≤ m := placed.full.resolve_right fun low => by omega
    have small : value < 2 ^ 52 * 2 ^ e := by
      rw [← shift]
      exact below.trans_le (zpow_le_zpow_right₀ one_le_two lower)
    -- Below it, only a power of two is near enough.
    have lowest : IsLowest m e := by
      by_contra notLowest
      have next : 2 ^ 52 + 1 ≤ m := by
        rcases Nat.eq_or_lt_of_le full with least | more
        · exact absurd ⟨least.symm, by omega⟩ notLowest
        · exact more
      have next : (2 ^ 52 + 1 : ℚ) ≤ m := by exact_mod_cast next
      have large := rounds.ge some_m
      nlinarith
    have upper : (51 : Nat) + e < top + 1 := by
      apply grows
      calc (2 : ℚ) ^ ((51 : Nat) + e) = 2 ^ 51 * 2 ^ e := shift 51
        _ ≤ (2 ^ 52 - 1 / 4) * 2 ^ e := mul_le_mul_of_nonneg_right (by norm_num) unit.le
        _ ≤ value := rounds.ge_of_isLowest lowest
        _ < 2 ^ (top + 1) := below
    exact ⟨lowest, by omega, small⟩

theorem bitsAt_lt (fits : m < 2 ^ 53) (inRange : e ≤ 971) : bitsAt e m < 2047 * 2 ^ 52 := by
  unfold bitsAt
  split <;> omega

/-- The bits of a number that rounds to a double are those of the double. -/
theorem nearestBits_eq_of_roundsTo (placed : IsPlaced m e) (some_m : 0 < m) (inRange : e ≤ 971)
    (positive : 0 < den) (same : (num : ℚ) = value * den) (rounds : RoundsTo m e value) :
    nearestBits num den = bitsAt e m := by
  have some_den : (0 : ℚ) < den := by exact_mod_cast positive
  have some_num : 0 < num := by
    have product : (0 : ℚ) < num := same ▸ mul_pos (rounds.pos some_m) some_den
    exact_mod_cast product
  obtain ⟨top, above, below, bits⟩ := exists_top some_num positive
  rw [same] at above below
  have above' := le_of_mul_le_mul_right above some_den
  have below' := lt_of_mul_lt_mul_right below some_den.le
  rw [bits]
  rcases rounds.unit_cases placed some_m above' below' with inPlace | ⟨lowest, lower, small⟩
  · rw [inPlace, mantissaAt_eq positive same (rounds.ge some_m) rounds.le rounds.lt_and_lt]
    exact Nat.min_eq_left (bitsAt_lt placed.fits inRange).le
  · -- The number is rounded up to the power of two, from the unit of the numbers below it.
    have halved : (2 : ℚ) ^ e = 2 * 2 ^ (e - 1) := by
      rw [zpow_sub_one₀ two_ne_zero]
      ring
    have half : (0 : ℚ) < 2 ^ (e - 1) := zpow_pos two_pos _
    have large := rounds.ge_of_isLowest lowest
    rw [halved] at large small
    have mantissa : mantissaAt (e - 1) num den = 2 ^ 53 := by
      apply mantissaAt_eq positive same
      · push_cast
        linarith
      · push_cast
        linarith
      · intro odd
        omega
    obtain ⟨rfl, above⟩ := lowest
    rw [lower, mantissa, bitsAt_of_le (by decide), bitsAt_of_le le_rfl]
    omega

/-! ## The word of a double -/

variable {x : Float} {negative : Bool}

theorem toBits_eq_bitsAt (reads : read x = .finite negative m e) :
    x.toBits.toNat = (if negative then 2 ^ 63 else 0) + bitsAt e m := by
  obtain ⟨biased, fraction, inExponent, inFraction, word, ⟨rfl, rfl, rfl⟩ | ⟨normal, rfl, rfl⟩⟩ :=
    toBits_of_read reads
  · rw [word, bitsAt, if_pos inFraction, Nat.zero_mul, Nat.zero_add]
  · rw [word, bitsAt_of_le (Nat.le_add_left _ _)]
    omega

theorem exponent_le_of_read (reads : read x = .finite negative m e) : e ≤ 971 := by
  obtain ⟨biased, fraction, inExponent, -, -, ⟨-, -, rfl⟩ | ⟨-, -, rfl⟩⟩ := toBits_of_read reads
  · decide
  · omega

/-- A number that rounds to a double is read as it. -/
theorem nearest_eq_of_roundsTo (reads : read x = .finite negative m e) (some_m : 0 < m)
    (positive : 0 < den) (same : (num : ℚ) = value * den) (rounds : RoundsTo m e value) :
    nearest negative num den = x := by
  have placed := isPlaced_of_read reads
  have inRange := exponent_le_of_read reads
  have some_num : num ≠ 0 := by
    have product : (0 : ℚ) < num :=
      same ▸ mul_pos (rounds.pos some_m) (by exact_mod_cast positive)
    rintro rfl
    exact lt_irrefl 0 (by exact_mod_cast product)
  have bits := bitsAt_lt placed.fits inRange
  have word := @toNat_ofNat_sign negative (bitsAt e m) (by omega)
  have magnitude : (if num == 0 then 0 else nearestBits num den) = bitsAt e m := by
    rw [if_neg (by simpa using some_num),
      nearestBits_eq_of_roundsTo placed some_m inRange positive same rounds]
  apply Float.toBits_inj.mp
  apply UInt64.toNat_inj.mp
  unfold nearest
  dsimp only
  rw [magnitude, toBits_ofBits, word, toBits_eq_bitsAt reads]
  rw [word]
  split_ifs <;> omega

/-! ## Decimals -/

theorem two_pow_lt_ten_pow : (2 : ℚ) ^ 1075 < 10 ^ 341 := by
  have natural : 2 ^ 1075 < 10 ^ 341 := by decide +kernel
  exact_mod_cast natural

/-- A number that rounds to a positive double lies between the powers of ten that are settled
without building them. -/
theorem RoundsTo.between_powers (placed : IsPlaced m e) (inRange : e ≤ 971) (some_m : 0 < m)
    (rounds : RoundsTo m e value) : (10 : ℚ) ^ (-341 : Int) < value ∧ value < 10 ^ (341 : Int) := by
  have one : (1 : ℚ) ≤ m := by exact_mod_cast some_m
  have fits : (m : ℚ) + 1 ≤ 2 ^ 53 := by exact_mod_cast placed.fits
  constructor
  · calc (10 : ℚ) ^ (-341 : Int) < 2 ^ (-1075 : Int) := by
          rw [zpow_neg, zpow_neg]
          exact inv_strictAnti₀ (by positivity) (by exact_mod_cast two_pow_lt_ten_pow)
      _ = (1 / 2) * 2 ^ (-1074 : Int) := by
          rw [show (-1074 : Int) = -1075 + 1 from rfl, zpow_add_one₀ two_ne_zero]
          ring
      _ ≤ (m - 1 / 2) * 2 ^ e :=
          mul_le_mul (by linarith) (zpow_le_zpow_right₀ one_le_two placed.inRange)
            (zpow_pos two_pos _).le (by linarith)
      _ ≤ value := rounds.ge some_m
  · calc value ≤ (m + 1 / 2) * 2 ^ e := rounds.le
      _ ≤ 2 ^ 53 * 2 ^ (971 : Int) :=
          mul_le_mul (by linarith) (zpow_le_zpow_right₀ one_le_two inRange)
            (zpow_pos two_pos _).le (by positivity)
      _ = 2 ^ (1024 : Nat) := by
          rw [← zpow_natCast, ← zpow_natCast, ← zpow_add₀ two_ne_zero]
          rfl
      _ < 2 ^ (1075 : Nat) := pow_lt_pow_right₀ one_lt_two (by decide)
      _ < 10 ^ (341 : Int) := by exact_mod_cast two_pow_lt_ten_pow

/-- A decimal that rounds to a double is read as it. -/
theorem nearestDecimal_eq_of_roundsTo {digits count : Nat} {place : Int}
    (reads : read x = .finite negative m e) (some_m : 0 < m) (fits : digits < 10 ^ count)
    (rounds : RoundsTo m e (digits * 10 ^ place)) :
    nearestDecimal negative digits place count = x := by
  obtain ⟨above, below⟩ :=
    rounds.between_powers (isPlaced_of_read reads) (exponent_le_of_read reads) some_m
  have some_digits : 0 < digits := by
    by_contra none_there
    have positive := rounds.pos some_m
    rw [Nat.eq_zero_of_not_pos none_there, Nat.cast_zero, zero_mul] at positive
    exact lt_irrefl 0 positive
  have notTiny : ¬place + count < -340 := by
    intro tiny
    have bound : (digits : ℚ) * 10 ^ place ≤ 10 ^ (-341 : Int) :=
      calc (digits : ℚ) * 10 ^ place ≤ 10 ^ count * 10 ^ place :=
            mul_le_mul_of_nonneg_right (by exact_mod_cast fits.le) (zpow_pos (by norm_num) _).le
        _ = 10 ^ (place + count) := by
            rw [zpow_add₀ (by norm_num), zpow_natCast, mul_comm]
        _ ≤ 10 ^ (-341 : Int) := zpow_le_zpow_right₀ (by norm_num) (by omega)
    exact absurd above (not_lt.mpr bound)
  have notHuge : ¬340 < place := by
    intro huge
    have bound : (10 : ℚ) ^ (341 : Int) ≤ digits * 10 ^ place :=
      calc (10 : ℚ) ^ (341 : Int) ≤ 10 ^ place := zpow_le_zpow_right₀ (by norm_num) (by omega)
        _ ≤ digits * 10 ^ place :=
            le_mul_of_one_le_left (zpow_pos (by norm_num) _).le (by exact_mod_cast some_digits)
    exact absurd below (not_lt.mpr bound)
  unfold nearestDecimal
  rw [if_neg (by simp; omega), if_neg notHuge]
  split_ifs with natural
  · obtain ⟨n, rfl⟩ := Int.eq_ofNat_of_zero_le natural
    refine nearest_eq_of_roundsTo reads some_m Nat.one_pos ?_ rounds
    simp
  · obtain ⟨n, rfl⟩ := Int.exists_eq_neg_ofNat (Int.le_of_lt (Int.not_le.mp natural))
    refine nearest_eq_of_roundsTo reads some_m (Nat.pow_pos (by decide)) ?_ rounds
    simp

end Nearest

end Bazaar.Decimal
