import Bazaar.Proofs.Decimal.Range

/-!
# Doubles that are whole numbers

A whole number below `2 ^ 53` is exactly one double, up to the sign of zero.  Rounding a quotient
that is such a number gives that double, and so does a sum or a quotient of doubles that is one.
-/

namespace Bazaar.Decimal

/-! ## The word of a whole number -/

/-- The mantissa of a whole number with all its bits. -/
def wholeMantissa (k : Nat) : Nat :=
  k * 2 ^ (52 - k.log2)

section Mantissa

variable {k : Nat}

theorem log2_le (small : k < 2 ^ 53) : k.log2 ≤ 52 := by
  by_cases zero : k = 0
  · simp [zero]
  · exact Nat.le_of_lt_succ ((Nat.log2_lt zero).mpr small)

theorem wholeMantissa_bounds (positive : 0 < k) (small : k < 2 ^ 53) :
    2 ^ 52 ≤ wholeMantissa k ∧ wholeMantissa k < 2 ^ 53 := by
  have low := Nat.log2_self_le positive.ne'
  have high := @Nat.lt_log2_self k
  have places := log2_le small
  have up : 2 ^ k.log2 * 2 ^ (52 - k.log2) = 2 ^ 52 := by
    rw [← pow_add]
    congr 1
    omega
  have up' : 2 ^ (k.log2 + 1) * 2 ^ (52 - k.log2) = 2 ^ 53 := by
    rw [← pow_add]
    congr 1
    omega
  rw [wholeMantissa, ← up, ← up']
  exact ⟨Nat.mul_le_mul_right _ low, Nat.mul_lt_mul_of_pos_right high (by positivity)⟩

theorem roundQuotient_mul {den : Nat} (some_den : 0 < den) : roundQuotient (k * den) den = k := by
  unfold roundQuotient
  dsimp only
  rw [Nat.mul_div_cancel _ some_den, Nat.mul_mod_left, if_pos some_den]

theorem powerOfTwo_of_nonpos {e : Int} (nonpos : e ≤ 0) :
    powerOfTwo e = (1, 2 ^ (-e).toNat) := by
  unfold powerOfTwo
  split
  · have zero : e = 0 := by omega
    simp [zero]
  · rfl

/-- The highest place of a quotient that is a whole number. -/
theorem top_eq_log2 {top : Int} {den : Nat} (positive : 0 < k) (some_den : 0 < den)
    (above : (2 : ℚ) ^ top * den ≤ (k * den : Nat))
    (below : ((k * den : Nat) : ℚ) < 2 ^ (top + 1) * den) :
    top = k.log2 := by
  have den_pos : (0 : ℚ) < den := Nat.cast_pos.mpr some_den
  rw [Nat.cast_mul] at above below
  have above' : (2 : ℚ) ^ top ≤ k := le_of_mul_le_mul_right above den_pos
  have below' : (k : ℚ) < 2 ^ (top + 1) := lt_of_mul_lt_mul_right below den_pos.le
  have low : (2 : ℚ) ^ (k.log2 : Int) ≤ k := by
    rw [zpow_natCast]
    exact_mod_cast Nat.log2_self_le positive.ne'
  have high : (k : ℚ) < 2 ^ (k.log2 + 1 : Int) := by
    have natural : ((k.log2 : Int) + 1) = ((k.log2 + 1 : Nat) : Int) := by push_cast; rfl
    rw [natural, zpow_natCast]
    exact_mod_cast Nat.lt_log2_self
  have first := (zpow_lt_zpow_iff_right₀ (one_lt_two : (1 : ℚ) < 2)).mp (above'.trans_lt high)
  have second := (zpow_lt_zpow_iff_right₀ (one_lt_two : (1 : ℚ) < 2)).mp (low.trans_lt below')
  omega

/-- The bits of a quotient that is a whole number. -/
theorem nearestBits_whole {den : Nat} (positive : 0 < k) (small : k < 2 ^ 53) (some_den : 0 < den) :
    nearestBits (k * den) den = (k.log2 + 1022) * 2 ^ 52 + wholeMantissa k := by
  obtain ⟨top, above, below, bits⟩ := exists_top (Nat.mul_pos positive some_den) some_den
  obtain rfl := top_eq_log2 positive some_den above below
  have places := log2_le small
  have unit : max ((k.log2 : Int) - 52) (-1074) = (k.log2 : Int) - 52 := by omega
  have mantissa : mantissaAt ((k.log2 : Int) - 52) (k * den) den = wholeMantissa k := by
    have exponent : (-((k.log2 : Int) - 52)).toNat = 52 - k.log2 := by omega
    rw [mantissaAt, powerOfTwo_of_nonpos (by omega), exponent]
    dsimp only
    rw [Nat.mul_one, Nat.mul_right_comm, roundQuotient_mul some_den]
    rfl
  rw [bits, unit, mantissa, bitsAt_of_le (wholeMantissa_bounds positive small).1]
  have bounds := wholeMantissa_bounds positive small
  have exponent : ((k.log2 : Int) - 52 + 1074).toNat = k.log2 + 1022 := by omega
  rw [exponent]
  omega

end Mantissa

/-! ## Reading and writing -/

/-- A word by its sign, its exponent and its fraction. -/
theorem read_eq {x : Float} {negative : Bool} {biased fraction : Nat} (inExponent : biased < 2047)
    (inFraction : fraction < 2 ^ 52)
    (bits : x.toBits.toNat = (if negative then 2 ^ 63 else 0) + (biased * 2 ^ 52 + fraction)) :
    read x = if biased = 0 then .finite negative fraction (-1074)
      else .finite negative (fraction + 2 ^ 52) (biased - 1075) := by
  have sign : (x.toBits.toNat / Nat.pow 2 63 == 1) = negative := by
    change (x.toBits.toNat / 2 ^ 63 == 1) = negative
    rw [bits]
    cases negative
    · rw [beq_eq_false_iff_ne]
      simp only [Bool.false_eq_true, if_false]
      omega
    · rw [beq_iff_eq]
      simp only [if_true]
      omega
  have exponent : x.toBits.toNat / Nat.pow 2 52 % 2048 = biased := by
    change x.toBits.toNat / 2 ^ 52 % 2048 = biased
    rw [bits]
    cases negative <;> simp only [Bool.false_eq_true, if_false, if_true] <;> omega
  have rest : x.toBits.toNat % Nat.pow 2 52 = fraction := by
    change x.toBits.toNat % 2 ^ 52 = fraction
    rw [bits]
    cases negative <;> simp only [Bool.false_eq_true, if_false, if_true] <;> omega
  unfold read
  dsimp only
  rw [sign, exponent, rest, if_neg (by simp; omega)]
  by_cases zero : biased = 0
  · rw [if_pos (by simpa using zero), if_pos zero]
  · rw [if_neg (by simpa using zero), if_neg zero]
    rfl

/-- The word of a double by what it is read as. -/
theorem toBits_of_read {x : Float} {negative : Bool} {mantissa : Nat} {exponent : Int}
    (reads : read x = .finite negative mantissa exponent) :
    ∃ biased fraction, biased < 2047 ∧ fraction < 2 ^ 52 ∧
      x.toBits.toNat = (if negative then 2 ^ 63 else 0) + (biased * 2 ^ 52 + fraction) ∧
      (biased = 0 ∧ mantissa = fraction ∧ exponent = -1074 ∨
        0 < biased ∧ mantissa = fraction + 2 ^ 52 ∧ exponent = biased - 1075) := by
  have word : x.toBits.toNat < 2 ^ 64 := x.toBits.toNat_lt
  have bits (negative : Bool) (sign : (x.toBits.toNat / 2 ^ 63 == 1) = negative) :
      x.toBits.toNat = (if negative then 2 ^ 63 else 0) +
        (x.toBits.toNat / 2 ^ 52 % 2048 * 2 ^ 52 + x.toBits.toNat % 2 ^ 52) := by
    cases negative
    · rw [beq_eq_false_iff_ne] at sign
      simp only [Bool.false_eq_true, if_false]
      omega
    · rw [beq_iff_eq] at sign
      simp only [if_true]
      omega
  have inFraction : x.toBits.toNat % 2 ^ 52 < 2 ^ 52 := Nat.mod_lt _ (by decide)
  have inExponent : x.toBits.toNat / 2 ^ 52 % 2048 < 2048 := Nat.mod_lt _ (by decide)
  unfold read at reads
  change (if x.toBits.toNat / 2 ^ 52 % 2048 == 2047 then _ else
    if x.toBits.toNat / 2 ^ 52 % 2048 == 0 then _ else _) = _ at reads
  split at reads
  · split at reads <;> cases reads
  · rename_i notTop
    have notTop : x.toBits.toNat / 2 ^ 52 % 2048 ≠ 2047 := by simpa using notTop
    refine ⟨_, _, by omega, inFraction, bits negative ?_, ?_⟩
    · split at reads <;> cases reads <;> rfl
    · split at reads
      · rename_i zero
        cases reads
        exact .inl ⟨by simpa using zero, rfl, rfl⟩
      · rename_i positive
        cases reads
        exact .inr ⟨Nat.pos_of_ne_zero (by simpa using positive), rfl, rfl⟩

section Whole

variable {k : Nat}

theorem toNat_ofNat_sign {negative : Bool} {magnitude : Nat} (inRange : magnitude < 2 ^ 63) :
    (UInt64.ofNat (if negative then magnitude + Nat.pow 2 63 else magnitude)).toNat =
      (if negative then 2 ^ 63 else 0) + magnitude := by
  rw [UInt64.toNat_ofNat']
  change (if negative then magnitude + 2 ^ 63 else magnitude) % 2 ^ 64 = _
  split_ifs <;> omega

/-- The word of a whole number, with a sign. -/
theorem toBits_nearest {negative : Bool} {den : Nat} (small : k < 2 ^ 53) (some_den : 0 < den) :
    (nearest negative (k * den) den).toBits.toNat = (if negative then 2 ^ 63 else 0) +
      if k = 0 then 0 else (k.log2 + 1022) * 2 ^ 52 + wholeMantissa k := by
  have magnitude : (if k * den == 0 then 0 else nearestBits (k * den) den) =
      if k = 0 then 0 else (k.log2 + 1022) * 2 ^ 52 + wholeMantissa k := by
    by_cases zero : k = 0
    · simp [zero]
    · have positive := Nat.pos_of_ne_zero zero
      rw [if_neg zero, if_neg (by simp [zero, some_den.ne']),
        nearestBits_whole positive small some_den]
  have inRange : (if k = 0 then 0 else (k.log2 + 1022) * 2 ^ 52 + wholeMantissa k) <
      2047 * 2 ^ 52 := by
    split
    · decide
    · rename_i some_k
      have bounds := wholeMantissa_bounds (Nat.pos_of_ne_zero some_k) small
      have places := log2_le small
      omega
  unfold nearest
  dsimp only
  rw [magnitude]
  generalize (if k = 0 then 0 else (k.log2 + 1022) * 2 ^ 52 + wholeMantissa k) = bits at *
  have word := @toNat_ofNat_sign negative bits (by omega)
  rw [toBits_ofBits, word]
  rw [word]
  split_ifs <;> omega

theorem nearest_mul {negative : Bool} {den : Nat} (small : k < 2 ^ 53) (some_den : 0 < den) :
    nearest negative (k * den) den = nearest negative k 1 := by
  apply Float.toBits_inj.mp
  apply UInt64.toNat_inj.mp
  have single := @toBits_nearest k negative 1 small Nat.one_pos
  rw [Nat.mul_one] at single
  rw [toBits_nearest small some_den, single]

theorem toBits_nearest_pos {negative : Bool} (positive : 0 < k) (small : k < 2 ^ 53) :
    (nearest negative k 1).toBits.toNat = (if negative then 2 ^ 63 else 0) +
      ((k.log2 + 1023) * 2 ^ 52 + (wholeMantissa k - 2 ^ 52)) := by
  have bits := @toBits_nearest k negative 1 small Nat.one_pos
  have bounds := wholeMantissa_bounds positive small
  rw [Nat.mul_one, if_neg positive.ne'] at bits
  rw [bits]
  omega

/-- A whole number is read as its mantissa in the place of its highest bit. -/
theorem read_nearest {negative : Bool} (positive : 0 < k) (small : k < 2 ^ 53) :
    read (nearest negative k 1) = .finite negative (wholeMantissa k) (k.log2 - 52) := by
  have bounds := wholeMantissa_bounds positive small
  have places := log2_le small
  have mantissa : wholeMantissa k - 2 ^ 52 + 2 ^ 52 = wholeMantissa k :=
    Nat.sub_add_cancel bounds.1
  have exponent : ((k.log2 + 1023 : Nat) : Int) - 1075 = k.log2 - 52 := by omega
  rw [read_eq (by omega) (by omega) (toBits_nearest_pos positive small),
    if_neg (Nat.succ_ne_zero _), mantissa, exponent]

theorem read_nearest_zero (negative : Bool) :
    read (nearest negative 0 1) = .finite negative 0 (-1074) := by
  cases negative <;> rfl

/-- A mantissa with all its bits belongs to one whole number in one place only. -/
theorem mantissa_eq {places : Nat} (full : 2 ^ 52 ≤ k * 2 ^ places)
    (fits : k * 2 ^ places < 2 ^ 53) : 0 < k ∧ places + k.log2 = 52 := by
  have positive : 0 < k := by
    by_contra zero
    have none_there : k = 0 := by omega
    simp [none_there] at full
  refine ⟨positive, ?_⟩
  have low : 2 ^ (places + k.log2) < 2 ^ 53 := by
    calc 2 ^ (places + k.log2) = 2 ^ k.log2 * 2 ^ places := by rw [pow_add, mul_comm]
      _ ≤ k * 2 ^ places := Nat.mul_le_mul_right _ (Nat.log2_self_le positive.ne')
      _ < 2 ^ 53 := fits
  have high : 2 ^ 52 < 2 ^ (places + k.log2 + 1) := by
    calc 2 ^ 52 ≤ k * 2 ^ places := full
      _ < 2 ^ (k.log2 + 1) * 2 ^ places := by
          exact Nat.mul_lt_mul_of_pos_right Nat.lt_log2_self (Nat.two_pow_pos places)
      _ = 2 ^ (places + k.log2 + 1) := by rw [← pow_add]; congr 1; omega
  have upper := (Nat.pow_lt_pow_iff_right (by decide)).mp low
  have lower := (Nat.pow_lt_pow_iff_right (by decide)).mp high
  omega

/-- A double that is a whole number is the nearest double to it. -/
theorem eq_nearest_of_read {x : Float} {negative : Bool} {mantissa : Nat} {exponent : Int}
    (reads : read x = .finite negative mantissa exponent) (small : k < 2 ^ 53)
    (same : mantissa * (powerOfTwo exponent).1 = k * (powerOfTwo exponent).2) :
    x = nearest negative k 1 := by
  have bits := @toBits_nearest k negative 1 small Nat.one_pos
  rw [Nat.mul_one] at bits
  apply Float.toBits_inj.mp
  apply UInt64.toNat_inj.mp
  obtain ⟨biased, fraction, inExponent, inFraction, word, ⟨rfl, rfl, rfl⟩ | ⟨normal, rfl, rfl⟩⟩ :=
    toBits_of_read reads
  · -- Below all normal doubles there is no whole number but zero.
    have unit : (powerOfTwo (-1074)).1 = 1 := rfl
    have far : 2 ^ 52 ≤ (powerOfTwo (-1074)).2 := by
      rw [powerOfTwo_of_nonpos (by decide)]
      exact Nat.pow_le_pow_right (by decide) (by decide)
    rw [unit, Nat.mul_one] at same
    have none_there : k = 0 := by
      by_contra some_k
      have above := Nat.le_mul_of_pos_left (powerOfTwo (-1074)).2 (Nat.pos_of_ne_zero some_k)
      omega
    rw [none_there, Nat.zero_mul] at same
    rw [word, bits, if_pos none_there]
    omega
  · have inPlace : (biased : Int) - 1075 ≤ 0 := by
      by_contra large
      obtain ⟨e, place⟩ := Int.eq_ofNat_of_zero_le (show 0 ≤ (biased : Int) - 1075 by omega)
      have two : 2 ^ 1 ≤ 2 ^ e := Nat.pow_le_pow_right (by decide) (by omega)
      have grown : (fraction + 2 ^ 52) * 2 ^ e = k := by
        rw [place] at same
        simpa [powerOfTwo] using same
      have above := Nat.mul_le_mul_left (fraction + 2 ^ 52) two
      omega
    rw [powerOfTwo_of_nonpos (by omega), Nat.mul_one] at same
    dsimp only at same
    obtain ⟨positive, places⟩ := mantissa_eq (same ▸ Nat.le_add_left _ fraction)
      (same ▸ Nat.add_lt_add_right inFraction _)
    have mantissa : fraction + 2 ^ 52 = wholeMantissa k := by
      rw [same, wholeMantissa]
      congr 2
      omega
    rw [word, bits, if_neg positive.ne', ← mantissa]
    omega

end Whole

/-! ## Arithmetic -/

section Arithmetic

open Float.Model (Format UnpackedFloat totalExponent)
open Float.Model.UnpackedFloat

/-- The sign of a double. -/
def signOf (negative : Bool) : Sign :=
  if negative then .negative else .positive

theorem toNat_append_one {width : Nat} (v : BitVec width) :
    (1#1 ++ v).toNat = v.toNat + 2 ^ width := by
  rw [BitVec.toNat_append, ← Nat.shiftLeft_add_eq_or_of_lt v.isLt, Nat.shiftLeft_eq,
    BitVec.toNat_one (by decide), Nat.one_mul, Nat.add_comm]

/-- The parts of a double by what it stands for. -/
def partsOf : Reading → UnpackedFloat
  | .nan => .notANumber
  | .infinite negative => .infinity (signOf negative)
  | .finite negative mantissa exponent =>
    if zero : mantissa = 0 then .zero (signOf negative)
    else .finite (signOf negative) mantissa exponent (Nat.pos_of_ne_zero zero)

theorem partsOf_pos {negative : Bool} {mantissa : Nat} {exponent : Int} (positive : 0 < mantissa) :
    partsOf (.finite negative mantissa exponent) =
      .finite (signOf negative) mantissa exponent positive :=
  dif_neg positive.ne'

/-- The parts of a double are those that are read off its bits. -/
theorem unpack_eq (x : Float) : x.toModel.unpack = partsOf (read x) := by
  have inWord : x.toBits.toNat < 2 ^ 64 := x.toBits.toNat_lt
  have exponent : (@unpackExponent Format.binary64 x.toBits.toBitVec).toNat =
      x.toBits.toNat / Nat.pow 2 52 % 2048 := by
    simp [unpackExponent, BitVec.extractLsb_toNat, Nat.shiftRight_eq_div_pow]
  have mantissa : (@unpackMantissa Format.binary64 x.toBits.toBitVec).toNat =
      x.toBits.toNat % Nat.pow 2 52 := by
    simp [unpackMantissa, BitVec.extractLsb_toNat]
  have sign : Sign.ofBitVec (@unpackSign Format.binary64 x.toBits.toBitVec) =
      signOf (x.toBits.toNat / Nat.pow 2 63 == 1) := by
    have cut : (@unpackSign Format.binary64 x.toBits.toBitVec).toNat =
        x.toBits.toNat / 2 ^ 63 % 2 := by
      simp [unpackSign, BitVec.extractLsb_toNat, Nat.shiftRight_eq_div_pow]
    change _ = signOf (x.toBits.toNat / 2 ^ 63 == 1)
    obtain bit | bit : x.toBits.toNat / 2 ^ 63 = 0 ∨ x.toBits.toNat / 2 ^ 63 = 1 := by omega
    · rw [bit] at cut ⊢
      rw [show @unpackSign Format.binary64 x.toBits.toBitVec = 0#1 from BitVec.eq_of_toNat_eq cut]
      rfl
    · rw [bit] at cut ⊢
      rw [show @unpackSign Format.binary64 x.toBits.toBitVec = 1#1 from BitVec.eq_of_toNat_eq cut]
      rfl
  have atTop : @unpackExponent Format.binary64 x.toBits.toBitVec = -1#_ ↔
      x.toBits.toNat / Nat.pow 2 52 % 2048 = 2047 := by
    rw [← exponent, ← BitVec.toNat_inj]
    rfl
  have atBottom : @unpackExponent Format.binary64 x.toBits.toBitVec = 0#_ ↔
      x.toBits.toNat / Nat.pow 2 52 % 2048 = 0 := by
    rw [← exponent, ← BitVec.toNat_inj]
    rfl
  have noMantissa : @unpackMantissa Format.binary64 x.toBits.toBitVec = 0#_ ↔
      x.toBits.toNat % Nat.pow 2 52 = 0 := by
    rw [← mantissa, ← BitVec.toNat_inj]
    rfl
  change unpack Format.binary64 x.toBits.toBitVec = _
  unfold unpack read
  simp only [sign, atTop, atBottom, noMantissa, exponent, beq_iff_eq]
  split_ifs with top infinite bottom zero
  · rfl
  · rfl
  · rw [zero]
    rfl
  · rw [partsOf_pos (Nat.pos_of_ne_zero zero), bottom]
    congr 1
  · have positive : 0 < x.toBits.toNat % Nat.pow 2 52 + Nat.pow 2 52 :=
      Nat.add_pos_right _ (by decide)
    rw [partsOf_pos positive]
    congr 1
    rw [toNat_append_one, mantissa]
    rfl

/-- The parts of a double that is not subnormal. -/
theorem unpack_of_word {x : Float} {negative : Bool} {biased fraction : Nat} (normal : 0 < biased)
    (inExponent : biased < 2047) (inFraction : fraction < 2 ^ 52)
    (word : x.toBits.toNat = (if negative then 2 ^ 63 else 0) + (biased * 2 ^ 52 + fraction)) :
    x.toModel.unpack = .finite (signOf negative) (fraction + 2 ^ 52) (biased - 1075)
      (Nat.add_pos_right _ (by decide)) := by
  rw [unpack_eq, read_eq inExponent inFraction word, if_neg normal.ne']
  exact partsOf_pos _

variable {k : Nat}

theorem wholeMantissa_pos (positive : 0 < k) : 0 < wholeMantissa k :=
  Nat.mul_pos positive (Nat.two_pow_pos _)

/-- The parts of a whole number. -/
theorem unpack_nearest {negative : Bool} (positive : 0 < k) (small : k < 2 ^ 53) :
    (nearest negative k 1).toModel.unpack = .finite (signOf negative) (wholeMantissa k)
      (k.log2 - 52) (wholeMantissa_pos positive) := by
  have bounds := wholeMantissa_bounds positive small
  have places := log2_le small
  have mantissa : wholeMantissa k - 2 ^ 52 + 2 ^ 52 = wholeMantissa k :=
    Nat.sub_add_cancel bounds.1
  have exponent : ((k.log2 + 1023 : Nat) : Int) - 1075 = k.log2 - 52 := by omega
  rw [unpack_of_word (Nat.succ_pos _) (by omega) (by omega) (toBits_nearest_pos positive small)]
  congr 1

theorem log2_mul_two_pow (positive : 0 < k) (places : Nat) :
    (k * 2 ^ places).log2 = k.log2 + places := by
  rw [Nat.log2_eq_iff (Nat.mul_pos positive (Nat.two_pow_pos places)).ne', pow_add,
    Nat.add_right_comm, pow_add]
  exact ⟨Nat.mul_le_mul_right _ (Nat.log2_self_le positive.ne'),
    Nat.mul_lt_mul_of_pos_right Nat.lt_log2_self (Nat.two_pow_pos places)⟩

/-- Nothing is lost when zeros are shifted out. -/
theorem repeat_shiftRightOne (mantissa places : Nat) :
    places.repeat ExtendedMantissa.shiftRightOne ⟨mantissa * 2 ^ places, false, false⟩ =
      ⟨mantissa, false, false⟩ := by
  induction places generalizing mantissa with
  | zero => simp [Nat.repeat]
  | succ places ih =>
      have split : mantissa * 2 ^ (places + 1) = mantissa * 2 * 2 ^ places := by ring
      rw [Nat.repeat, split, ih]
      simp [ExtendedMantissa.shiftRightOne]

theorem shiftToTargetExponent_whole (positive : 0 < k) (small : k < 2 ^ 53) {places : Nat}
    (enough : 52 ≤ places + k.log2) :
    shiftToTargetExponent Format.binary64 (k * 2 ^ places) (-places) .exact =
      (⟨wholeMantissa k, false, false⟩, (k.log2 : Int) - 52) := by
  have bits := log2_le small
  have target : Format.binary64.targetExponent (totalExponent (k * 2 ^ places) (-places)) =
      (k.log2 : Int) - 52 := by
    unfold Format.targetExponent totalExponent
    rw [log2_mul_two_pow positive]
    have width : (Format.binary64.mantissaBits : Int) = 53 := rfl
    have least : Format.binary64.minExponent = -1074 := rfl
    rw [width, least]
    push_cast
    omega
  have shift : ((k.log2 : Int) - 52 - -places).toNat = places - (52 - k.log2) := by omega
  have split : k * 2 ^ places = wholeMantissa k * 2 ^ (places - (52 - k.log2)) := by
    rw [wholeMantissa, mul_assoc, ← pow_add]
    congr 2
    omega
  unfold shiftToTargetExponent shiftToExponent
  dsimp only
  rw [target, shift]
  refine Prod.ext ?_ ?_
  · rw [split]
    exact repeat_shiftRightOne _ _
  · dsimp only
    omega

/-- A whole number with zeros behind it is rounded to itself. -/
theorem roundWithAccuracy_whole (sign : Sign) (positive : 0 < k) (small : k < 2 ^ 53) {places : Nat}
    (enough : 52 ≤ places + k.log2) :
    roundWithAccuracy Format.binary64 sign (k * 2 ^ places) (-places) .exact =
      .finite sign (wholeMantissa k) (k.log2 - 52) (wholeMantissa_pos positive) := by
  have bits := log2_le small
  have again := shiftToTargetExponent_whole positive small
    (show 52 ≤ (52 - k.log2) + k.log2 by omega)
  have exponent : (-(52 - k.log2 : Nat) : Int) = k.log2 - 52 := by omega
  rw [exponent] at again
  unfold roundWithAccuracy
  rw [shiftToTargetExponent_whole positive small enough]
  dsimp only
  have rounded : ExtendedMantissa.roundedMantissa ⟨wholeMantissa k, false, false⟩ =
      k * 2 ^ (52 - k.log2) := rfl
  rw [rounded, again]
  dsimp only
  exact dif_neg (wholeMantissa_pos positive).ne'

theorem ofModel_pack_unpack (x : Float) :
    Float.ofModel (Float.Model.pack x.toModel.unpack) = x :=
  Float.ofBits_toBits x

theorem unpack_nearest_zero (negative : Bool) :
    (nearest negative 0 1).toModel.unpack = .zero (signOf negative) := by
  cases negative <;> rfl

theorem nearest_add_zero {negative negative' : Bool} (positive : 0 < k) (small : k < 2 ^ 53) :
    nearest negative k 1 + nearest negative' 0 1 = nearest negative k 1 := by
  have sum : UnpackedFloat.add Format.binary64 (nearest negative k 1).toModel.unpack
      (nearest negative' 0 1).toModel.unpack = (nearest negative k 1).toModel.unpack := by
    rw [unpack_nearest positive small, unpack_nearest_zero]
    rfl
  change Float.ofModel (Float.Model.pack (UnpackedFloat.add _ _ _)) = _
  rw [sum, ofModel_pack_unpack]

/-- The places of a product are those of its factors, or one more. -/
theorem log2_mul_bounds {d : Nat} (positive : 0 < k) (some_d : 0 < d) :
    d.log2 ≤ (k * d).log2 ∧ (k * d).log2 ≤ k.log2 + d.log2 + 1 := by
  have product := (Nat.mul_pos positive some_d).ne'
  constructor
  · exact (Nat.le_log2 product).mpr
      ((Nat.log2_self_le some_d.ne').trans (Nat.le_mul_of_pos_left d positive))
  · have fits : (k * d).log2 < (k.log2 + 1) + (d.log2 + 1) := by
      rw [Nat.log2_lt product, pow_add]
      exact Nat.mul_lt_mul'' Nat.lt_log2_self Nat.lt_log2_self
    omega

/-- A whole quotient of mantissas with all their bits, with zeros behind it. -/
theorem divCore_whole {d : Nat} (positive : 0 < k) (some_d : 0 < d) (small : k * d < 2 ^ 53) :
    ∃ places : Nat, 52 ≤ places + k.log2 ∧
      divCore Format.binary64 (wholeMantissa (k * d)) ((k * d).log2 - 52) (wholeMantissa d)
        (d.log2 - 52) = (k * 2 ^ places, -(places : Int), .exact) := by
  have d_small : d < 2 ^ 53 := (Nat.le_mul_of_pos_left d positive).trans_lt small
  have top := log2_le small
  obtain ⟨low, high⟩ := log2_mul_bounds positive some_d
  have width : (Format.binary64.mantissaBits : Int) = 53 := rfl
  have least : Format.binary64.minExponent = -1074 := rfl
  have bits {n : Nat} (some_n : 0 < n) (small : n < 2 ^ 53) : (wholeMantissa n).log2 = 52 := by
    have places := log2_le small
    rw [wholeMantissa, log2_mul_two_pow some_n]
    omega
  have target : Format.binary64.targetExponent
      (totalExponent (wholeMantissa (k * d)) ((k * d).log2 - 52) -
        totalExponent (wholeMantissa d) (d.log2 - 52)) = ((k * d).log2 : Int) - d.log2 - 53 := by
    unfold Format.targetExponent totalExponent
    rw [bits (Nat.mul_pos positive some_d) small, bits some_d d_small, width, least]
    omega
  let places := 53 + d.log2 - (k * d).log2
  have dividend : wholeMantissa (k * d) * 2 ^ 53 = k * 2 ^ places * wholeMantissa d := by
    have exponents : 52 - (k * d).log2 + 53 = places + (52 - d.log2) := by omega
    rw [wholeMantissa, wholeMantissa, mul_assoc, ← pow_add, exponents, pow_add]
    ring
  have divisor := wholeMantissa_pos some_d
  refine ⟨places, by omega, ?_⟩
  have lower : min (((k * d).log2 : Int) - 52 - (d.log2 - 52)) ((k * d).log2 - d.log2 - 53) =
      -places := by omega
  have shift : (((k * d).log2 : Int) - 52 - (d.log2 - 52) - -places).toNat = 53 := by omega
  unfold divCore
  dsimp only
  rw [target, lower, shift, Nat.shiftLeft_eq, dividend, Nat.mul_div_cancel _ divisor,
    Nat.mul_mod_left]
  rfl

/-- A whole quotient of whole numbers is exact. -/
theorem nearest_div {negative : Bool} {d : Nat} (positive : 0 < k) (some_d : 0 < d)
    (small : k * d < 2 ^ 53) :
    nearest negative (k * d) 1 / nearest false d 1 = nearest negative k 1 := by
  have d_small : d < 2 ^ 53 := (Nat.le_mul_of_pos_left d positive).trans_lt small
  have k_small : k < 2 ^ 53 := (Nat.le_mul_of_pos_right k some_d).trans_lt small
  obtain ⟨places, enough, quotient⟩ := divCore_whole positive some_d small
  have sign : signOf negative / signOf false = signOf negative := by cases negative <;> rfl
  have divided : UnpackedFloat.div Format.binary64 (nearest negative (k * d) 1).toModel.unpack
      (nearest false d 1).toModel.unpack = (nearest negative k 1).toModel.unpack := by
    rw [unpack_nearest (Nat.mul_pos positive some_d) small, unpack_nearest some_d d_small,
      unpack_nearest positive k_small]
    unfold UnpackedFloat.div
    dsimp only
    rw [quotient, sign]
    exact roundWithAccuracy_whole _ positive k_small enough
  change Float.ofModel (Float.Model.pack (UnpackedFloat.div _ _ _)) = _
  rw [divided, ofModel_pack_unpack]

end Arithmetic

/-! ## Doubles that are integers -/

/-- The quotient of a magnitude in front of zeros. -/
theorem quotient_whole (k places : Nat) :
    quotient (k * 2 ^ places) (-places) = (k * 2 ^ places, 2 ^ places) := by
  unfold quotient
  rw [powerOfTwo_of_nonpos (by omega), Int.neg_neg, Int.toNat_natCast]
  dsimp only
  rw [Nat.mul_one]

/-- A double that is an integer below `2 ^ 53`, with either sign if it is zero. -/
structure IsWhole (x : Float) (n : Int) : Prop where
  small : n.natAbs < 2 ^ 53
  nearest : ∃ negative, x = nearest negative n.natAbs 1 ∧ (n ≠ 0 → negative = decide (n < 0))

namespace IsWhole

variable {x : Float} {n : Int}

theorem of_nearest (small : n.natAbs < 2 ^ 53) :
    IsWhole (Decimal.nearest (decide (n < 0)) n.natAbs 1) n :=
  ⟨small, _, rfl, fun _ => rfl⟩

/-- A double that equals an integer is the nearest double to it. -/
theorem of_intEqFloat (same : Number.intEqFloat n x = true) (small : n.natAbs < 2 ^ 53) :
    IsWhole x n := by
  refine ⟨small, ?_⟩
  unfold Number.intEqFloat at same
  split at same
  · rename_i negative mantissa exponent reads
    simp only [quotient, beq_iff_eq] at same
    have some_down : (0 : Int) < (powerOfTwo exponent).2 := by
      exact_mod_cast powerOfTwo_snd_pos exponent
    have magnitude := congrArg Int.natAbs same
    rw [Int.natAbs_mul, Int.natAbs_natCast] at magnitude
    refine ⟨negative, eq_nearest_of_read reads small ?_, fun nonzero => ?_⟩
    · rw [← magnitude]
      generalize mantissa * (powerOfTwo exponent).1 = num
      split
      · rw [Int.natAbs_neg, Int.natAbs_natCast]
      · rw [Int.natAbs_natCast]
    · generalize mantissa * (powerOfTwo exponent).1 = num at same
      cases negative with
      | true =>
          rw [if_pos rfl] at same
          have notAbove : ¬0 < n := fun above => by
            have product := Int.mul_pos above some_down
            omega
          exact (decide_eq_true (by omega)).symm
      | false =>
          rw [if_neg Bool.false_ne_true] at same
          have notBelow : ¬n < 0 := fun below => by
            have product := Int.mul_neg_of_neg_of_pos below some_down
            omega
          exact (decide_eq_false notBelow).symm
  · cases same

/-- A double that is an integer is read as its magnitude in front of zeros. -/
theorem exists_read (whole : IsWhole x n) : ∃ (negative : Bool) (k places : Nat),
    (if negative then -(k : Int) else k) = n ∧
      read x = .finite negative (k * 2 ^ places) (-places) := by
  obtain ⟨small, negative, rfl, sign⟩ := whole
  by_cases zero : n = 0
  · subst zero
    refine ⟨negative, 0, 1074, by simp, ?_⟩
    rw [Int.natAbs_zero, Nat.zero_mul]
    exact read_nearest_zero negative
  · have positive : 0 < n.natAbs := Int.natAbs_pos.mpr zero
    have places := log2_le small
    refine ⟨negative, n.natAbs, 52 - n.natAbs.log2, ?_, ?_⟩
    · rw [sign zero]
      simp only [decide_eq_true_eq]
      split <;> omega
    · have exponent : (-(52 - n.natAbs.log2 : Nat) : Int) = n.natAbs.log2 - 52 := by omega
      rw [read_nearest positive small, exponent]
      rfl

/-- A zero added to an integer leaves it. -/
theorem add_zero {y : Float} (whole : IsWhole x n) (zero : IsWhole y 0) : IsWhole (x + y) n := by
  obtain ⟨small, negative, rfl, sign⟩ := whole
  obtain ⟨-, negative', rfl, -⟩ := zero
  by_cases none_there : n = 0
  · subst none_there
    refine ⟨small, negative && negative', ?_, fun nonzero => absurd rfl nonzero⟩
    cases negative <;> cases negative' <;> rfl
  · exact ⟨small, negative, nearest_add_zero (Int.natAbs_pos.mpr none_there) small, sign⟩

/-- A positive integer with thousands is divided by a thousand exactly. -/
theorem div_thousand (whole : IsWhole x (1000 * n)) (positive : 0 < n) : IsWhole (x / 1000) n := by
  obtain ⟨small, negative, rfl, sign⟩ := whole
  have magnitude : (1000 * n).natAbs = n.natAbs * 1000 := by omega
  have thousand : (1000 : Float) = Decimal.nearest false 1000 1 := rfl
  rw [magnitude] at small ⊢
  refine ⟨by omega, negative, ?_, fun nonzero => ?_⟩
  · rw [thousand, nearest_div (by omega) (by decide) small]
  · rw [sign (by omega)]
    exact decide_eq_decide.mpr (by omega)

theorem zero_div_billion (zero : IsWhole x 0) : IsWhole (x / 1e9) 0 := by
  obtain ⟨small, negative, rfl, -⟩ := zero
  refine ⟨small, negative, ?_, fun nonzero => absurd rfl nonzero⟩
  cases negative <;> rfl

theorem intBelowFloat (whole : IsWhole x n) (m : Int) :
    Number.intBelowFloat m x = decide (m < n) := by
  obtain ⟨negative, k, places, rfl, reads⟩ := whole.exists_read
  have some_places : (0 : Int) < (2 ^ places : Nat) := by positivity
  have signed : (if negative then -((k * 2 ^ places : Nat) : Int) else (k * 2 ^ places : Nat)) =
      (if negative then -(k : Int) else k) * (2 ^ places : Nat) := by
    rw [Int.natCast_mul, ite_mul, Int.neg_mul]
  unfold Number.intBelowFloat
  rw [reads]
  dsimp only
  rw [quotient_whole]
  dsimp only
  rw [signed]
  exact decide_eq_decide.mpr (Int.mul_lt_mul_right some_places)

/-! ## Integers turned into doubles -/

theorem two_pow_add_two_pow_le {a b c : Nat} (first : a < c) (second : b < c) :
    2 ^ a + 2 ^ b ≤ 2 ^ c := by
  have first_power := Nat.pow_le_pow_right two_pos (Nat.le_sub_one_of_lt first)
  have second_power := Nat.pow_le_pow_right two_pos (Nat.le_sub_one_of_lt second)
  have halves := Nat.two_pow_pred_add_two_pow_pred (Nat.zero_lt_of_lt first)
  omega

theorem lt_limit {k : Nat} (small : k < 2 ^ 53) : k < limit := by
  unfold limit
  exact small.trans_le (Nat.le_sub_of_add_le (two_pow_add_two_pow_le (by decide) (by decide)))

theorem exists_floatOfInt (small : n.natAbs < 2 ^ 53) :
    ∃ x, Number.floatOfInt n = .ok x ∧ IsWhole x n := by
  refine ⟨_, ?_, of_nearest small⟩
  have finite := @isFinite_nearest_iff n.natAbs 1 (n < 0) Nat.one_pos
  rw [Nat.mul_one] at finite
  exact if_pos (finite.mpr (lt_limit small))

/-- A number that equals an integer is a double that is the integer. -/
theorem exists_toFloat {a : Number} (same : a.same (.int n) = true) (small : n.natAbs < 2 ^ 53) :
    ∃ x, a.toFloat = .ok x ∧ IsWhole x n := by
  cases a with
  | int m =>
      obtain rfl : m = n := by simpa [Number.same] using same
      exact exists_floatOfInt small
  | float x => exact ⟨x, rfl, of_intEqFloat same small⟩

/-- An integer with zeros behind it is divided exactly. -/
theorem exists_divideInt {d : Nat} (some_d : 0 < d) (small : n.natAbs < 2 ^ 53) :
    ∃ x, Number.divideInt (n * d) d = .ok x ∧ IsWhole x n := by
  refine ⟨_, ?_, of_nearest small⟩
  have magnitude : (n * d).natAbs = n.natAbs * d := by rw [Int.natAbs_mul, Int.natAbs_natCast]
  have sign : decide (n * d < 0) = decide (n < 0) :=
    decide_eq_decide.mpr (by simp [Int.mul_neg_iff, some_d])
  have finite := @isFinite_nearest_iff (n.natAbs * d) d (n < 0) some_d
  unfold Number.divideInt
  dsimp only
  rw [magnitude, sign, if_pos (finite.mpr (Nat.mul_lt_mul_of_pos_right (lt_limit small) some_d)),
    nearest_mul small some_d]

end IsWhole

end Bazaar.Decimal
