import Bazaar.Calendar.Epoch
import Bazaar.Proofs.Calendar.Civil
import Bazaar.Proofs.Decimal.Whole
import Mathlib.Tactic.Ring

/-!
# Times by their seconds

The times in universal time that fall on a whole second are exactly the seconds from the first
midnight of the calendar to the last second of the year 9999, and each is found from its second.
-/

namespace Bazaar.Calendar

namespace DateTime

/-- A time that is a number of seconds behind the first of January 1970. -/
def AtSecond (t : DateTime) (s : Int) : Prop :=
  t.micros = (s + epochDay * 86400) * 1000000

theorem isValid_iff {t : DateTime} :
    t.isValid = true ↔ t.date.isValid = true ∧ t.hour < 24 ∧ t.minute < 60 ∧ t.second < 60 ∧
      t.micro < 1000000 := by
  simp [isValid, and_assoc]

variable {t : DateTime} {s : Int}

/-- The second of a time in universal time, by its day and the time of day. -/
theorem atSecond_iff (valid : t.isValid = true) (universal : t.offset = some 0) :
    t.AtSecond s ↔ t.micro = 0 ∧
      s = (t.date.number - epochDay) * 86400 + t.hour * 3600 + t.minute * 60 + t.second := by
  obtain ⟨-, -, -, -, inSecond⟩ := isValid_iff.mp valid
  unfold AtSecond micros epochDay
  rw [universal, Option.getD_some]
  dsimp only
  constructor
  · intro same
    have noFraction : (t.micro : Int) = 0 := by omega
    constructor <;> omega
  · rintro ⟨noFraction, rfl⟩
    rw [noFraction]
    push_cast
    ring

/-- A time in universal time is found from its second. -/
theorem ofSeconds?_eq (valid : t.isValid = true) (universal : t.offset = some 0)
    (at_second : t.AtSecond s) : ofSeconds? s 0 = some t := by
  obtain ⟨noFraction, rfl⟩ := (atSecond_iff valid universal).mp at_second
  obtain ⟨validDate, inDay, inHour, inMinute, -⟩ := isValid_iff.mp valid
  obtain ⟨date, hour, minute, second, micro, offset⟩ := t
  dsimp only at noFraction universal validDate inDay inHour inMinute ⊢
  subst noFraction universal
  have clock : (((date.number - epochDay : Int) * 86400 + hour * 3600 + minute * 60 + second) %
      86400).toNat = hour * 3600 + minute * 60 + second := by omega
  have day : ((date.number - epochDay : Int) * 86400 + hour * 3600 + minute * 60 + second) /
      86400 + epochDay = date.number := by omega
  unfold ofSeconds?
  dsimp only
  rw [clock, day, Date.ofNumber?_number validDate, Option.map_some]
  have hours : (hour * 3600 + minute * 60 + second) / 3600 = hour := by omega
  have minutes : (hour * 3600 + minute * 60 + second) / 60 % 60 = minute := by omega
  have seconds : (hour * 3600 + minute * 60 + second) % 60 = second := by omega
  rw [hours, minutes, seconds]

/-- The seconds of the calendar. -/
theorem exists_atSecond_iff :
    (∃ t : DateTime, t.isValid = true ∧ t.offset = some 0 ∧ t.AtSecond s) ↔
      -62135596800 ≤ s ∧ s ≤ 253402300799 := by
  constructor
  · rintro ⟨t, valid, universal, at_second⟩
    obtain ⟨-, rfl⟩ := (atSecond_iff valid universal).mp at_second
    obtain ⟨validDate, inDay, inHour, inMinute, -⟩ := isValid_iff.mp valid
    have first := (Date.number_bounds validDate).1
    have last := Date.number_le validDate
    unfold Date.lastNumber at last
    unfold epochDay
    omega
  · rintro ⟨first, last⟩
    obtain ⟨date, valid, number⟩ := @Date.exists_number (s / 86400 + epochDay).toNat
      (by unfold epochDay; omega) (by unfold epochDay Date.lastNumber; omega)
    let clock := (s % 86400).toNat
    have fits : clock < 86400 := by omega
    have isValid : (⟨date, clock / 3600, clock / 60 % 60, clock % 60, 0, some 0⟩ :
        DateTime).isValid = true := isValid_iff.mpr ⟨valid, by dsimp only; omega⟩
    refine ⟨_, isValid, rfl, ?_⟩
    rw [atSecond_iff isValid rfl]
    dsimp only
    rw [number]
    unfold epochDay at *
    omega

end DateTime

section Whole

open Decimal (IsWhole)

variable {x : Float} {s : Int}

theorem roundFloat_zero (negative : Bool) :
    roundFloat (Decimal.nearest negative 0 1 * 1e6) = 0 := by
  have product : Decimal.nearest negative 0 1 * 1e6 = Decimal.nearest negative 0 1 := by
    cases negative <;> rfl
  have value (e : Int) : Decimal.quotient 0 e = (0, (Decimal.powerOfTwo e).2) :=
    Prod.ext (Nat.zero_mul _) rfl
  have rounds (den : Nat) (some_den : 0 < den) : Decimal.roundQuotient 0 den = 0 := by
    simpa using @Decimal.roundQuotient_mul 0 den some_den
  rw [product, roundFloat, Decimal.read_nearest_zero]
  dsimp only
  rw [value]
  dsimp only
  rw [rounds _ (Decimal.powerOfTwo_snd_pos _)]
  cases negative <;> rfl

/-- A double that is an integer has no microseconds. -/
theorem splitSeconds?_whole (whole : IsWhole x s) : splitSeconds? x = some (s, 0) := by
  obtain ⟨negative, k, places, rfl, reads⟩ := whole.exists_read
  have some_places : 0 < 2 ^ places := Nat.two_pow_pos places
  have noFraction := @Decimal.nearest_mul 0 negative (2 ^ places) (by decide) some_places
  rw [Nat.zero_mul] at noFraction
  unfold splitSeconds?
  rw [reads]
  dsimp only
  rw [Decimal.truncate, Decimal.quotient_whole]
  dsimp only
  rw [Nat.mul_mod_left, Nat.mul_div_cancel _ some_places, noFraction, roundFloat_zero]
  rfl

theorem ofEpoch?_whole (whole : IsWhole x s) : ofEpoch? (.float x) = ofSeconds? s 0 := by
  rw [ofEpoch?, splitSeconds?_whole whole]
  rfl

end Whole

end Bazaar.Calendar
