import Bazaar.Platform
import Bazaar.Proofs.Decimal.Range
import Bazaar.Proofs.Outcome
import Bazaar.Value.Display

/-!
# Integers that every platform writes

What a check of a number of digits comes to, and that no check stops an integer that can be a
double: it has fewer digits than the lowest limit.
-/

namespace Bazaar

namespace Platform

variable [Platform] {digits digits' : Nat} (fault : Nat → NumberFault)

theorem check_eq_ok_iff : check digits fault = .ok () ↔ Allows digits := by
  unfold check Allows
  cases digitLimit with
  | none => simp
  | some limit => simp

theorem check_eq_error_iff {e : NumberFault} : check digits fault = .error e ↔
    ∃ limit, digitLimit = some limit ∧ limit.val < digits ∧ e = fault limit.val := by
  unfold check
  cases (digitLimit : Option {limit : Nat // 640 ≤ limit}) with
  | none => simp
  | some limit =>
      by_cases within : digits ≤ limit.val
      · simp [within]
      · simp [within, Nat.not_le.mp within, eq_comm]

theorem reads_check_iff : Reads (check digits fault) ↔ Allows digits := by
  rw [← check_eq_ok_iff fault]
  exact ⟨fun ⟨_, found⟩ => found, fun found => ⟨(), found⟩⟩

theorem not_allows_iff : ¬Allows digits ↔ ∃ limit, digitLimit = some limit ∧ limit.val < digits := by
  simp [Allows]

theorem Allows.mono (allows : Allows digits') (atMost : digits ≤ digits') : Allows digits :=
  fun limit given => atMost.trans (allows limit given)

theorem allows_of_le (few : digits ≤ 640) : Allows digits :=
  fun limit _ => few.trans limit.property

theorem allows_max_iff : Allows (max digits digits') ↔ Allows digits ∧ Allows digits' := by
  simp [Allows, forall_and]

/-- Without a limit an integer may have any number of digits. -/
theorem allows_of_unlimited (unlimited : (digitLimit : Option {limit : Nat // 640 ≤ limit}) = none)
    (digits : Nat) : Allows digits := by
  simp [Allows, unlimited]

omit [Platform] in
theorem two_pow_le_ten_pow {k m : Nat} (exponent : k ≤ 3 * m) : 2 ^ k ≤ 10 ^ m := by
  calc
    2 ^ k ≤ 2 ^ (3 * m) := Nat.pow_le_pow_right Nat.two_pos exponent
    _ = 8 ^ m := Nat.pow_mul 2 3 m
    _ ≤ 10 ^ m := Nat.pow_le_pow_left (by decide) m

omit [Platform] in
/-- Each digit holds at least three bits. -/
theorem digitCount_le {n : Int} {k m : Nat} (small : n.natAbs < 2 ^ k) (some_digit : 0 < m)
    (exponent : k ≤ 3 * m) : digitCount n ≤ m := by
  rw [digitCount, Nat.length_toDigits_le_iff (by decide) some_digit]
  exact small.trans_le (two_pow_le_ten_pow exponent)

/-- Every platform writes and reads the integers that can be doubles. -/
theorem allows_digitCount {n : Int} (small : n.natAbs < Decimal.limit) : Allows (digitCount n) :=
  allows_of_le (digitCount_le (small.trans_le (Nat.sub_le _ _)) (by decide) (by decide))

theorem write_eq (n : Int) : write n = (checkWriting (digitCount n)).map fun _ => toString n := by
  unfold write
  cases checkWriting (digitCount n) <;> rfl

theorem write_eq_ok_iff {n : Int} {text : String} :
    write n = .ok text ↔ Allows (digitCount n) ∧ text = toString n := by
  rw [write_eq, checkWriting, ← check_eq_ok_iff .writing]
  cases check (digitCount n) .writing with
  | error fault => simp [Except.map]
  | ok _ => simp [Except.map, eq_comm]

theorem reads_write_iff {n : Int} : Reads (write n) ↔ Allows (digitCount n) := by
  rw [write_eq, reads_map_iff, checkWriting, reads_check_iff]

end Platform

namespace Value

variable [Platform] {v : Value}

theorem write_of_allows (allows : Platform.Allows v.digits) : v.write = .ok v.text := by
  rw [write, Platform.checkWriting, (Platform.check_eq_ok_iff _).mpr allows]
  rfl

theorem write_eq_error_iff {fault : NumberFault} : v.write = .error fault ↔
    ∃ limit : {limit : Nat // 640 ≤ limit}, Platform.digitLimit = some limit ∧
      limit.val < v.digits ∧ fault = .writing limit.val := by
  rw [← Platform.check_eq_error_iff]
  exact bind_pure_eq_error_iff

end Value

end Bazaar
