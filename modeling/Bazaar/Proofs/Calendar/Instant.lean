import Bazaar.Proofs.Calendar.Iso
import Bazaar.Proofs.Decimal.Product
import Bazaar.Proofs.Outcome

/-!
# Times that are read

Whatever is read as a time is a time of the calendar: a number of seconds gives a date and a time
of day with less than a million microseconds, and a text gives fields that are checked and an offset
shorter than a day.  Two times with the same offset are one instant only if they agree in all their
fields, and what is written for a time or for a date tells it from all others.
-/

namespace Bazaar.Calendar

/-! ## Seconds -/

section Seconds

open Decimal (read)

variable {x : Float} {m : Nat} {e : Int} {negative : Bool}

theorem roundQuotient_le_of_le {num den k : Nat} (positive : 0 < den) (atMost : num ≤ k * den) :
    Decimal.roundQuotient num den ≤ k := by
  rcases Nat.eq_or_lt_of_le atMost with rfl | below
  · exact (Decimal.roundQuotient_mul positive).le
  · exact Decimal.roundQuotient_le positive below

/-- A double that is at most a whole number is rounded to at most that number. -/
theorem natAbs_roundFloat_le {k : Nat} (reads : read x = .finite negative m e)
    (atMost : (m : ℚ) * 2 ^ e ≤ k) : (roundFloat x).natAbs ≤ k := by
  have positive := Decimal.powerOfTwo_snd_pos e
  have down : (0 : ℚ) < (Decimal.powerOfTwo e).2 := by exact_mod_cast positive
  have quotient : m * (Decimal.powerOfTwo e).1 ≤ k * (Decimal.powerOfTwo e).2 := by
    rw [← Nat.cast_le (α := ℚ)]
    push_cast
    rw [Decimal.cast_powerOfTwo_fst, ← mul_assoc]
    exact mul_le_mul_of_nonneg_right atMost down.le
  have rounded := roundQuotient_le_of_le positive quotient
  unfold roundFloat Decimal.quotient
  rw [reads]
  dsimp only
  cases negative <;> simpa using rounded

/-- The microseconds of a proper fraction of a second are at most a million in size. -/
theorem natAbs_micros_le (negative : Bool) {num den : Nat} (proper : num < den) :
    (roundFloat (Decimal.nearest negative num den * 1e6)).natAbs ≤ 1000000 := by
  obtain ⟨negative', m, e, reads, atMost⟩ := Decimal.nearest_atMost_one negative proper
  have million : read 1e6 = .finite false (1000000 * 2 ^ 33) (-33) := by decide +kernel
  have product : (m : ℚ) * 2 ^ e * ((1000000 * 2 ^ 33 : Nat) * 2 ^ (-33 : Int)) ≤
      (1000000 : Nat) := by
    have scale : ((1000000 * 2 ^ 33 : Nat) : ℚ) * 2 ^ (-33 : Int) = 1000000 := by norm_num
    rw [scale]
    push_cast
    linarith
  obtain ⟨negative'', r, p, isProduct, least⟩ :=
    Decimal.mul_atMost reads million (by decide) (by decide) product
  exact natAbs_roundFloat_le isProduct least

theorem micro_of_splitSeconds? {s : Int} {micro : Nat} (split : splitSeconds? x = some (s, micro)) :
    micro < 1000000 := by
  unfold splitSeconds? at split
  cases reads : read x with
  | nan => rw [reads] at split; cases split
  | infinite _ => rw [reads] at split; cases split
  | finite negative m e =>
      rw [reads] at split
      have positive : 0 < (Decimal.quotient m e).2 := Decimal.powerOfTwo_snd_pos e
      have bound := natAbs_micros_le negative (Nat.mod_lt (Decimal.quotient m e).1 positive)
      dsimp only at split
      split_ifs at split with full below
      all_goals
        cases split
        omega

theorem ofNumber?_eq_some {n : Int} {d : Date} (found : Date.ofNumber? n = some d) :
    d.isValid = true := by
  unfold Date.ofNumber? at found
  split_ifs at found with inRange
  cases found
  simp only [Bool.and_eq_true, decide_eq_true_eq] at inRange
  obtain ⟨d, valid, number⟩ := @Date.exists_number n.toNat (by omega) (by omega)
  rw [← number, Date.ofNumber_number valid]
  exact valid

theorem ofSeconds?_valid {s : Int} {micro : Nat} {t : DateTime} (inSecond : micro < 1000000)
    (found : ofSeconds? s micro = some t) : t.isValid = true ∧ t.offset = some 0 := by
  obtain ⟨date, isDate, rfl⟩ := Option.map_eq_some_iff.mp found
  refine ⟨DateTime.isValid_iff.mpr ⟨ofNumber?_eq_some isDate, ?_⟩, rfl⟩
  dsimp only
  omega

/-- The time of a number of seconds is a time in universal time. -/
theorem ofEpoch?_valid {a : Number} {t : DateTime} (found : ofEpoch? a = some t) :
    t.isValid = true ∧ t.offset = some 0 := by
  cases a with
  | int n => exact ofSeconds?_valid (by decide) found
  | float x =>
      obtain ⟨⟨s, micro⟩, split, found⟩ := Option.bind_eq_some_iff.mp found
      exact ofSeconds?_valid (micro_of_splitSeconds? split) found

end Seconds

/-! ## Texts -/

namespace Iso

/-- An offset that is missing or shorter than a day. -/
def NearBy (offset : Option Int) : Prop :=
  ∀ m ∈ offset, m.natAbs < 1440

theorem nearBy_none : NearBy none := by
  simp [NearBy]

theorem field_bounds {cs : List Char} {n : Int} (reads : field cs = .ok n) :
    n.natAbs < 10 ^ cs.length ∧ (n < 0 → n.natAbs < 10 ^ (cs.length - 1)) := by
  unfold field at reads
  split at reads
  · rename_i spelled
    cases reads
    exact Text.int?_bounds spelled
  · cases reads

/-- A field that stands for a negative number spends a character on the sign. -/
theorem neg_pow_lt_of_field {cs : List Char} {n : Int} {places : Nat}
    (short : cs.length ≤ places + 1) (reads : field cs = .ok n) : -(10 ^ places : Nat) < n := by
  have bounds := (field_bounds reads).2
  have digits := Nat.pow_le_pow_right (show 0 < 10 by decide)
    (show cs.length - 1 ≤ places by omega)
  have positive : 0 < 10 ^ places := Nat.pow_pos (by decide)
  omega

/-- Hours and minutes that pass the checks of an offset are less than a day. -/
theorem natAbs_offsetOf_lt {sign : Char} {hours minutes m : Int} (lowHours : -10 < hours)
    (lowMinutes : -100 < minutes)
    (reads : offsetOf sign hours minutes = .ok m) : m.natAbs < 1440 := by
  unfold offsetOf at reads
  dsimp only at reads
  split at reads
  · cases reads
    decide
  · split at reads
    · cases reads
    · rename_i inDay
      simp only [Bool.or_eq_true, decide_eq_true_eq, not_or] at inDay
      cases reads
      split <;> omega

theorem offset_bound {cs : List Char} {m : Int} (reads : offset cs = .ok m) : m.natAbs < 1440 := by
  unfold offset at reads
  split at reads
  · cases reads
    decide
  · cases reads
    decide
  · rename_i sign rest _ _
    dsimp only at reads
    split at reads
    · cases reads
    rename_i width
    have length : rest.length ≤ 5 := by
      simp at width
      omega
    split at reads
    · cases reads
    obtain ⟨hours, readHours, reads⟩ := exists_of_bind_eq_ok reads
    have lowHours : -10 < hours :=
      @neg_pow_lt_of_field _ _ 1 (List.length_take_le 2 rest) readHours
    split at reads
    · exact natAbs_offsetOf_lt lowHours (by decide) reads
    · rename_i tail _ spelled
      obtain ⟨minutes, readMinutes, reads⟩ := exists_of_bind_eq_ok reads
      have count := congrArg List.length spelled
      rw [List.length_drop, List.length_cons] at count
      exact natAbs_offsetOf_lt lowHours (@neg_pow_lt_of_field _ _ 2 (by omega) readMinutes) reads
    · obtain ⟨minutes, readMinutes, reads⟩ := exists_of_bind_eq_ok reads
      have count := @List.length_drop _ 2 rest
      exact natAbs_offsetOf_lt lowHours (@neg_pow_lt_of_field _ _ 2 (by omega) readMinutes) reads
  · cases reads

variable {raw : RawTime} {cs : List Char}

/-- A time of day that ends in an offset. -/
theorem nearBy_of_ends {f : Int → RawTime} (gives : ∀ m, (f m).offset = some m)
    (reads : (offset cs >>= fun m => pure (f m)) = .ok raw) : NearBy raw.offset := by
  obtain ⟨m, readOffset, reads⟩ := exists_of_bind_eq_ok reads
  cases reads
  rw [gives]
  rintro _ ⟨⟩
  exact offset_bound readOffset

variable {known : RawTime}

theorem nearBy_afterSecond (nearBy : NearBy known.offset) (reads : afterSecond known cs = .ok raw) :
    NearBy raw.offset := by
  unfold afterSecond at reads
  split at reads
  · cases reads
    exact nearBy
  · split at reads
    · exact nearBy_of_ends (fun _ => rfl) reads
    · split at reads
      · cases reads
      · dsimp only at reads
        split at reads
        · cases reads
          exact nearBy
        · split at reads
          · exact nearBy_of_ends (fun _ => rfl) reads
          · cases reads

theorem nearBy_afterMinute {colon : Bool} (nearBy : NearBy known.offset)
    (reads : afterMinute known colon cs = .ok raw) : NearBy raw.offset := by
  unfold afterMinute at reads
  split at reads
  · cases reads
    exact nearBy
  · split at reads
    · exact nearBy_of_ends (fun _ => rfl) reads
    · dsimp only at reads
      split at reads
      · cases reads
      · obtain ⟨second, -, reads⟩ := exists_of_bind_eq_ok reads
        refine nearBy_afterSecond ?_ reads
        exact nearBy

theorem nearBy_afterHour (nearBy : NearBy known.offset) (reads : afterHour known cs = .ok raw) :
    NearBy raw.offset := by
  unfold afterHour at reads
  split at reads
  · cases reads
    exact nearBy
  · split at reads
    · exact nearBy_of_ends (fun _ => rfl) reads
    · obtain ⟨minute, -, reads⟩ := exists_of_bind_eq_ok reads
      refine nearBy_afterMinute ?_ reads
      exact nearBy

theorem nearBy_time (reads : time cs = .ok raw) : NearBy raw.offset := by
  unfold time at reads
  cases cs with
  | nil => cases reads
  | cons c rest =>
      dsimp only at reads
      split at reads
      · cases reads
      · split at reads
        · exact nearBy_of_ends (fun _ => rfl) reads
        · obtain ⟨hour, -, reads⟩ := exists_of_bind_eq_ok reads
          obtain ⟨t, readRest, reads⟩ := exists_of_bind_eq_ok reads
          split at reads
          · cases reads
          · cases reads
            refine nearBy_afterHour ?_ readRest
            exact nearBy_none

/-- What is built from the fields of a text is a time of the calendar with the offset read. -/
theorem isValid_of_build {d : RawDate} {t : DateTime} (built : build d raw = .ok t) :
    t.isValid = true ∧ t.offset = raw.offset := by
  obtain ⟨year, month, day⟩ := d
  unfold build at built
  dsimp only at built
  obtain ⟨y, -, built⟩ := exists_of_bind_eq_ok built
  obtain ⟨m, -, built⟩ := exists_of_bind_eq_ok built
  obtain ⟨d, -, built⟩ := exists_of_bind_eq_ok built
  obtain ⟨hour, -, built⟩ := exists_of_bind_eq_ok built
  obtain ⟨minute, -, built⟩ := exists_of_bind_eq_ok built
  obtain ⟨second, -, built⟩ := exists_of_bind_eq_ok built
  split at built
  · cases built
  · rename_i valid
    simp only [Bool.not_eq_true, Bool.not_eq_false'] at valid
    split at built
    · split at built
      · rename_i next found
        cases built
        refine ⟨DateTime.isValid_iff.mpr ⟨ofNumber?_eq_some found, ?_⟩, rfl⟩
        exact (DateTime.isValid_iff.mp valid).2
      · cases built
    · cases built
      exact ⟨valid, rfl⟩

/-- A time that is read is a time of the calendar, and its offset is shorter than a day. -/
theorem isValid_of_read {s : String} {t : DateTime} (reads : read s = .ok t) :
    t.isValid = true ∧ NearBy t.offset := by
  unfold read at reads
  dsimp only at reads
  split at reads
  · cases reads
  · obtain ⟨⟨d, rest⟩, -, reads⟩ := exists_of_bind_eq_ok reads
    dsimp only at reads
    split at reads
    · obtain ⟨valid, same⟩ := isValid_of_build reads
      exact ⟨valid, same ▸ nearBy_none⟩
    · obtain ⟨raw, readTime, reads⟩ := exists_of_bind_eq_ok reads
      obtain ⟨valid, same⟩ := isValid_of_build reads
      exact ⟨valid, same ▸ nearBy_time readTime⟩

end Iso

/-! ## Instants -/

namespace DateTime

variable {t u : DateTime}

/-- Times of the calendar with nearby offsets are written apart. -/
theorem iso_inj (valid : t.isValid = true) (valid' : u.isValid = true)
    (nearBy : Iso.NearBy t.offset) (nearBy' : Iso.NearBy u.offset) : t.iso = u.iso ↔ t = u := by
  refine ⟨fun same => ?_, congrArg iso⟩
  have reads := Iso.read_iso valid nearBy
  rw [same, Iso.read_iso valid' nearBy'] at reads
  exact (Except.ok.inj reads).symm

/-- Two times of the calendar with one offset are one time if they are one instant. -/
theorem eq_of_micros_eq (valid : t.isValid = true) (valid' : u.isValid = true)
    (offset : t.offset = u.offset) (instant : t.micros = u.micros) : t = u := by
  obtain ⟨validDate, inDay, inHour, inMinute, inSecond⟩ := isValid_iff.mp valid
  obtain ⟨validDate', inDay', inHour', inMinute', inSecond'⟩ := isValid_iff.mp valid'
  unfold micros at instant
  rw [offset] at instant
  dsimp only at instant
  have number : t.date.number = u.date.number := by omega
  have date : t.date = u.date := by
    rw [← Date.ofNumber_number validDate, number, Date.ofNumber_number validDate']
  have clock : t.hour = u.hour ∧ t.minute = u.minute ∧ t.second = u.second ∧ t.micro = u.micro := by
    omega
  obtain ⟨hour, minute, second, micro⟩ := clock
  cases t
  cases u
  simp only [mk.injEq]
  exact ⟨date, hour, minute, second, micro, offset⟩

/-- The number of the day on which an instant falls some minutes east of universal time. -/
def dayAt (micros offset : Int) : Int :=
  (micros / 60000000 + offset) / 1440

theorem date_number (valid : t.isValid = true) :
    (t.date.number : Int) = dayAt t.micros (t.offset.getD 0) := by
  obtain ⟨-, inDay, inHour, inMinute, inSecond⟩ := isValid_iff.mp valid
  unfold dayAt micros
  dsimp only
  omega

end DateTime

namespace Date

open Iso (digits)

variable {d e : Date}

theorem toList_short (d : Date) : d.short.toList =
    (toString d.year).toList ++ '-' :: (digits 2 d.month ++ '-' :: digits 2 d.day) := by
  simp [short, Iso.toList_paddedNat]

theorem digits_inj {width m n : Nat} : digits width m = digits width n ↔ m = n := by
  refine ⟨fun same => ?_, congrArg _⟩
  have reads := Iso.field_digits width m
  rw [same, Iso.field_digits] at reads
  exact_mod_cast (Except.ok.inj reads).symm

/-- Different dates of the calendar are written apart. -/
theorem short_inj (valid : d.isValid = true) (valid' : e.isValid = true) :
    d.short = e.short ↔ d = e := by
  obtain ⟨-, ⟨-, inMonths⟩, -, inMonth⟩ := isValid_iff.mp valid
  obtain ⟨-, ⟨-, inMonths'⟩, -, inMonth'⟩ := isValid_iff.mp valid'
  have shortMonth := daysInMonth_le d.year d.month
  have shortMonth' := daysInMonth_le e.year e.month
  have month := Iso.length_two (show d.month < 100 by omega)
  have month' := Iso.length_two (show e.month < 100 by omega)
  have day := Iso.length_two (show d.day < 100 by omega)
  have day' := Iso.length_two (show e.day < 100 by omega)
  refine ⟨fun same => ?_, congrArg short⟩
  rw [← String.toList_inj, toList_short, toList_short] at same
  obtain ⟨years, rest⟩ := List.append_inj' same (by simp [month, month', day, day'])
  obtain ⟨months, rest⟩ := List.append_inj (List.cons.inj rest).2 (month.trans month'.symm)
  have year : d.year = e.year := Nat.repr_inj.mp (String.toList_inj.mp years)
  cases d
  cases e
  simp only [mk.injEq]
  exact ⟨year, digits_inj.mp months, digits_inj.mp (List.cons.inj rest).2⟩

end Date

end Bazaar.Calendar
