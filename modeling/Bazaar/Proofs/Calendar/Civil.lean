import Bazaar.Calendar.Civil
import Mathlib.Data.Nat.Basic
import Mathlib.Order.Monotone.Basic

/-!
# Days and their numbers

The days of the calendar, one after the other, have the numbers from 1 to that of the last day, and
each day is found again from its number.
-/

namespace Bazaar.Calendar

/-! ## Years -/

theorem isLeap_iff {year : Nat} :
    isLeap year = true ↔ 4 ∣ year ∧ (¬100 ∣ year ∨ 400 ∣ year) := by
  simp [isLeap, Nat.dvd_iff_mod_eq_zero]

/-- A year begins when the year before it is over. -/
theorem daysBeforeYear_succ {year : Nat} (positive : 0 < year) :
    daysBeforeYear (year + 1) = daysBeforeYear year + daysInYear year := by
  obtain ⟨past, rfl⟩ : ∃ past, year = past + 1 := Nat.exists_eq_succ_of_ne_zero positive.ne'
  unfold daysBeforeYear daysInYear
  simp only [Nat.add_sub_cancel, isLeap_iff, Nat.succ_div]
  have fewer : past / 100 ≤ past / 4 := Nat.div_le_div_left (by decide) (by decide)
  have fours : 100 ∣ past + 1 → 4 ∣ past + 1 := Nat.dvd_trans (by decide)
  have hundreds : 400 ∣ past + 1 → 100 ∣ past + 1 := Nat.dvd_trans (by decide)
  by_cases four : 4 ∣ past + 1
  · by_cases hundred : 100 ∣ past + 1
    · by_cases fourHundred : 400 ∣ past + 1
      · simp only [four, hundred, fourHundred]
        simp
        omega
      · simp only [four, hundred, fourHundred]
        simp
        omega
    · simp only [four, hundred, mt hundreds hundred]
      simp
      omega
  · simp only [four, mt fours four, mt hundreds (mt fours four)]
    simp
    omega

theorem daysBeforeYear_mono : Monotone daysBeforeYear := by
  apply monotone_nat_of_le_succ
  intro year
  cases year with
  | zero => exact Nat.zero_le _
  | succ past =>
      rw [daysBeforeYear_succ (Nat.succ_pos past)]
      exact Nat.le_add_right _ _

/-- The mean length of a year leads to the year or to a neighbour of it. -/
theorem guess_bounds {year days : Nat} (begun : daysBeforeYear year ≤ days)
    (notOver : days < daysBeforeYear (year + 1)) (positive : 0 < year) :
    year ≤ days * 400 / 146097 + 2 ∧ days * 400 / 146097 + 1 ≤ year + 1 := by
  unfold daysBeforeYear at begun notOver
  dsimp only at begun notOver
  constructor <;> omega

/-! ## Months -/

theorem daysBeforeMonth_mono (year : Nat) : Monotone (daysBeforeMonth year) :=
  monotone_nat_of_le_succ fun _ => Nat.le_add_right _ _

theorem daysBeforeMonth_succ (year : Nat) {month : Nat} (positive : 0 < month) :
    daysBeforeMonth year (month + 1) = daysBeforeMonth year month + daysInMonth year month := by
  rw [daysBeforeMonth, if_neg positive.ne']

theorem daysBeforeMonth_twelve (year : Nat) :
    daysBeforeMonth year 12 + daysInMonth year 12 = daysInYear year := by
  unfold daysInYear
  cases leap : isLeap year <;> simp [daysBeforeMonth, daysInMonth, leap]

theorem daysInMonth_pos (year month : Nat) : 0 < daysInMonth year month := by
  unfold daysInMonth
  split
  · split <;> decide
  all_goals decide

theorem daysInMonth_le (year month : Nat) : daysInMonth year month ≤ 31 := by
  unfold daysInMonth
  split
  · split <;> decide
  all_goals decide

theorem length_filter_range {p : Nat → Bool} {n m : Nat} (upTo : m ≤ n)
    (below : ∀ k, p k = true ↔ k < m) : ((List.range n).filter p).length = m := by
  obtain ⟨more, rfl⟩ := Nat.exists_eq_add_of_le upTo
  rw [List.range_add, List.filter_append, List.filter_eq_self.mpr, List.filter_eq_nil_iff.mpr]
  · simp
  · intro k member
    obtain ⟨d, -, rfl⟩ := List.mem_map.mp member
    simp [below]
  · intro k member
    exact (below k).mpr (List.mem_range.mp member)

/-! ## Days -/

/-- A day of the calendar. -/
theorem Date.isValid_iff {d : Date} :
    d.isValid = true ↔ (1 ≤ d.year ∧ d.year ≤ 9999) ∧ (1 ≤ d.month ∧ d.month ≤ 12) ∧
      1 ≤ d.day ∧ d.day ≤ daysInMonth d.year d.month := by
  simp [isValid, and_assoc]

/-- The days of a year that are over by a day of it. -/
theorem Date.inYear_eq {d : Date} (valid : d.isValid = true) :
    inYear d.year (daysBeforeMonth d.year d.month + d.day - 1) = d := by
  obtain ⟨-, ⟨firstMonth, lastMonth⟩, firstDay, lastDay⟩ := isValid_iff.mp valid
  have behind := daysBeforeMonth_succ d.year firstMonth
  have month : ((List.range 12).filter fun m => daysBeforeMonth d.year (m + 1) ≤
      daysBeforeMonth d.year d.month + d.day - 1).length = d.month := by
    apply length_filter_range lastMonth
    intro m
    rw [decide_eq_true_iff]
    constructor
    · intro begun
      by_contra later
      have upTo := daysBeforeMonth_mono d.year (show d.month + 1 ≤ m + 1 by omega)
      omega
    · intro earlier
      have upTo := daysBeforeMonth_mono d.year (show m + 1 ≤ d.month from earlier)
      omega
  unfold inYear
  dsimp only
  rw [month]
  obtain ⟨year, month, day⟩ := d
  simp
  dsimp only at firstDay
  omega

/-- A day of a year comes before the year is over. -/
theorem Date.number_bounds {d : Date} (valid : d.isValid = true) :
    daysBeforeYear d.year < d.number ∧ d.number ≤ daysBeforeYear (d.year + 1) := by
  obtain ⟨⟨firstYear, -⟩, ⟨firstMonth, lastMonth⟩, firstDay, lastDay⟩ := isValid_iff.mp valid
  have ends := daysBeforeMonth_mono d.year (show d.month + 1 ≤ 12 + 1 by omega)
  rw [daysBeforeMonth_succ d.year firstMonth, daysBeforeMonth_succ d.year (by decide),
    daysBeforeMonth_twelve] at ends
  rw [daysBeforeYear_succ firstYear, number]
  omega

theorem Date.number_le {d : Date} (valid : d.isValid = true) : d.number ≤ lastNumber := by
  obtain ⟨⟨-, lastYear⟩, -⟩ := isValid_iff.mp valid
  have upTo := daysBeforeYear_mono (show d.year + 1 ≤ 10000 by omega)
  exact (number_bounds valid).2.trans upTo

/-- A day is found again from its number. -/
theorem Date.ofNumber_number {d : Date} (valid : d.isValid = true) : ofNumber d.number = d := by
  obtain ⟨begun, notOver⟩ := number_bounds valid
  obtain ⟨⟨firstYear, -⟩, -, firstDay, -⟩ := isValid_iff.mp valid
  obtain ⟨low, high⟩ := @guess_bounds d.year (d.number - 1) (by omega) (by omega) firstYear
  have reached (year : Nat) : daysBeforeYear year ≤ d.number - 1 ↔ year ≤ d.year := by
    constructor
    · intro isReached
      by_contra later
      have upTo := daysBeforeYear_mono (show d.year + 1 ≤ year by omega)
      omega
    · intro earlier
      have upTo := daysBeforeYear_mono earlier
      omega
  have year : (if daysBeforeYear ((d.number - 1) * 400 / 146097 + 1 + 1) ≤ d.number - 1 then
        (d.number - 1) * 400 / 146097 + 1 + 1
      else if daysBeforeYear ((d.number - 1) * 400 / 146097 + 1) ≤ d.number - 1 then
        (d.number - 1) * 400 / 146097 + 1
      else (d.number - 1) * 400 / 146097 + 1 - 1) = d.year := by
    simp only [reached]
    split_ifs <;> omega
  unfold ofNumber
  dsimp only
  rw [year]
  have dayOfYear : d.number - 1 - daysBeforeYear d.year =
      daysBeforeMonth d.year d.month + d.day - 1 := by
    rw [number]
    omega
  rw [dayOfYear, inYear_eq valid]

theorem Date.ofNumber?_number {d : Date} (valid : d.isValid = true) :
    ofNumber? d.number = some d := by
  have first := (number_bounds valid).1
  have last := number_le valid
  rw [ofNumber?, if_pos (by simp; omega), Int.toNat_natCast, ofNumber_number valid]

/-- The day behind a day. -/
def Date.next (d : Date) : Date :=
  if d.day < daysInMonth d.year d.month then ⟨d.year, d.month, d.day + 1⟩
  else if d.month < 12 then ⟨d.year, d.month + 1, 1⟩
  else ⟨d.year + 1, 1, 1⟩

/-- Days that follow each other have numbers that follow each other. -/
theorem Date.number_next {d : Date} (valid : d.isValid = true) : d.next.number = d.number + 1 := by
  obtain ⟨⟨firstYear, -⟩, ⟨firstMonth, lastMonth⟩, firstDay, lastDay⟩ := isValid_iff.mp valid
  unfold next
  split_ifs with inMonth inYear
  · rfl
  · simp only [number, daysBeforeMonth_succ d.year firstMonth]
    omega
  · have december : d.month = 12 := by omega
    have whole := daysBeforeMonth_twelve d.year
    rw [december] at lastDay inMonth
    have january : daysBeforeMonth (d.year + 1) 1 = 0 := rfl
    simp only [number, daysBeforeYear_succ firstYear, december, january]
    omega

theorem Date.isValid_next {d : Date} (valid : d.isValid = true) (notLast : d.number < lastNumber) :
    d.next.isValid = true := by
  obtain ⟨⟨firstYear, lastYear⟩, ⟨firstMonth, lastMonth⟩, firstDay, lastDay⟩ :=
    isValid_iff.mp valid
  rw [isValid_iff]
  unfold next
  split_ifs with inMonth inYear
  · exact ⟨⟨firstYear, lastYear⟩, ⟨firstMonth, lastMonth⟩, by simp, inMonth⟩
  · exact ⟨⟨firstYear, lastYear⟩, ⟨by simp, inYear⟩, le_refl 1, daysInMonth_pos _ _⟩
  · refine ⟨⟨by simp, ?_⟩, ⟨le_refl 1, by simp⟩, le_refl 1, daysInMonth_pos _ _⟩
    by_contra beyond
    have year : d.year = 9999 := by
      dsimp only at beyond
      omega
    have month : d.month = 12 := by omega
    rw [month] at lastDay inMonth
    have whole := daysBeforeMonth_twelve d.year
    have next := daysBeforeYear_succ firstYear
    have end' : daysBeforeYear (d.year + 1) = lastNumber := by rw [year]; rfl
    rw [number, month] at notLast
    omega

/-- Every number up to the last one is the number of a day. -/
theorem Date.exists_number {n : Nat} (first : 1 ≤ n) (last : n ≤ lastNumber) :
    ∃ d : Date, d.isValid = true ∧ d.number = n := by
  induction n, first using Nat.le_induction with
  | base => exact ⟨⟨1, 1, 1⟩, by decide, by decide⟩
  | succ n first ih =>
      obtain ⟨d, valid, rfl⟩ := ih (by omega)
      exact ⟨d.next, isValid_next valid last, number_next valid⟩

end Bazaar.Calendar
