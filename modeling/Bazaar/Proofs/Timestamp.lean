import Bazaar.Proofs.Calendar.Iso
import Bazaar.Proofs.Text
import Bazaar.Proofs.Text.Phrase
import Bazaar.Render.Document
import Bazaar.Timestamp

/-!
# Timestamps read back

Every encoding of an instant is read as the same time: its text, with or without the offset and with
blanks around it, an object that gives its second, and its number of seconds or milliseconds.
-/

namespace Bazaar.Timestamp

open Calendar (DateTime)
open Decimal (IsWhole)

variable {t : DateTime} {s n : Int} {v : Json}

/-! ## Texts -/

/-- A text of blanks only. -/
def Blank (text : String) : Prop :=
  ∀ c ∈ text.toList, Text.isBlank c = true

/-- The text of a time is read as the time, which is in universal time without an offset. -/
theorem ofText_iso (valid : t.isValid = true) (nearBy : ∀ m ∈ t.offset, m.natAbs < 1440)
    {before after : String} (inBefore : Blank before) (inAfter : Blank after) :
    ofText (before ++ t.iso ++ after) =
      .ok (some { t with offset := some (t.offset.getD 0) }) := by
  have some_text : t.iso.isEmpty = false := by
    have some_chars : t.iso.toList ≠ [] := by simp [Calendar.Iso.toList_iso]
    simpa using some_chars
  unfold ofText
  rw [Text.trim_append inBefore inAfter fun c member =>
    (Calendar.Iso.isMark_of_mem_iso c member).not_isBlank]
  dsimp only
  rw [some_text, if_neg Bool.false_ne_true, Calendar.Iso.read_iso valid nearBy]

theorem read_ofString (text : String) : read (.ofString text) = ofText text := by
  rw [Json.ofString, read, ofPhrase, Phrase.string?_ofString]

/-- A time in universal time is written as without an offset, and then the offset. -/
theorem iso_universal (universal : t.offset = some 0) :
    t.iso = DateTime.iso { t with offset := none } ++ "+00:00" := by
  have suffix : DateTime.offsetText 0 = "+00:00" := by decide
  unfold DateTime.iso DateTime.textWith
  rw [universal, Option.map_some, suffix]
  simp [DateTime.clock]

/-! ## Numbers -/

/-- A value that is an integer, or a double that equals it. -/
inductive IsNumber : Json → Int → Prop
  | int (n : Int) : IsNumber (.int n) n
  | float {x : Float} {n : Int} : Number.intEqFloat n x = true → IsNumber (.float x) n

theorem IsNumber.exists_number? (isNumber : IsNumber v n) :
    ∃ a, number? v = some a ∧ a.same (.int n) = true ∧ read v = ofNumber a := by
  cases isNumber with
  | int => exact ⟨.int n, rfl, by simp [Number.same], rfl⟩
  | @float x _ same => exact ⟨.float x, rfl, same, rfl⟩

section Numbers

variable {a : Number}

theorem below_eq (same : a.same (.int n) = true) (small : n.natAbs < 2 ^ 53) (m : Int) :
    (Number.int m).below a = decide (m < n) := by
  cases a with
  | int k =>
      obtain rfl : k = n := by simpa [Number.same] using same
      rfl
  | float x => exact (IsWhole.of_intEqFloat same small).intBelowFloat m

theorem ofEpoch?_eq (same : a.same (.int s) = true) (small : s.natAbs < 2 ^ 53) :
    Calendar.ofEpoch? a = Calendar.ofSeconds? s 0 := by
  cases a with
  | int k =>
      obtain rfl : k = s := by simpa [Number.same] using same
      rfl
  | float x => exact Calendar.ofEpoch?_whole (.of_intEqFloat same small)

/-- A number of seconds up to the limit is read as seconds. -/
theorem ofNumber_seconds (same : a.same (.int s) = true) (small : s.natAbs < 2 ^ 53)
    (few : s ≤ 100000000000) : ofNumber a = .ok (Calendar.ofSeconds? s 0) := by
  unfold ofNumber secondsLimit
  rw [below_eq same small, if_neg (by simpa using few), ofEpoch?_eq same small]

/-- A number of milliseconds above the limit is read as milliseconds. -/
theorem ofNumber_milliseconds (same : a.same (.int (1000 * s)) = true)
    (small : (1000 * s).natAbs < 2 ^ 53) (many : 100000000000 < 1000 * s) :
    ofNumber a = .ok (Calendar.ofSeconds? s 0) := by
  unfold ofNumber secondsLimit
  rw [below_eq same small, if_pos (by simpa using many)]
  cases a with
  | int k =>
      obtain rfl : k = 1000 * s := by simpa [Number.same] using same
      obtain ⟨x, quotient, whole⟩ :
          ∃ x, Number.divideInt (1000 * s) 1000 = .ok x ∧ IsWhole x s := by
        rw [Int.mul_comm]
        exact IsWhole.exists_divideInt (by decide) (by omega)
      dsimp only
      rw [quotient]
      exact congrArg Except.ok (Calendar.ofEpoch?_whole whole)
  | float x =>
      have whole := (IsWhole.of_intEqFloat same small).div_thousand (by omega)
      exact congrArg Except.ok (Calendar.ofEpoch?_whole whole)

end Numbers

/-! ## Objects -/

section Objects

variable {members : Members}

/-- The value that an object has under one name, or else under another. -/
def Holds (members : Members) (name other : Phrase) (v : Json) : Prop :=
  members.get? name = some v ∨ members.get? name = none ∧ members.get? other = some v

/-- An object that gives a whole second, and no nanoseconds or none that count. -/
structure GivesSecond (members : Members) (s : Int) : Prop where
  second : ∃ v, Holds members "_seconds" "seconds" v ∧ IsNumber v s
  noFraction : ∀ v, Holds members "_nanoseconds" "nanoseconds" v → IsNumber v 0

theorem firstOf_eq_some_iff {name other : Phrase} :
    firstOf members name other = some v ↔ Holds members name other v := by
  unfold firstOf Holds
  cases members.get? name <;> simp

/-- The nanoseconds that are read are zero if none count. -/
theorem GivesSecond.nanos (gives : GivesSecond members s) :
    (((firstOf members "_nanoseconds" "nanoseconds").bind number?).getD (.int 0)).same (.int 0) =
      true := by
  cases found : firstOf members "_nanoseconds" "nanoseconds" with
  | none => rfl
  | some v =>
      obtain ⟨a, number, same, -⟩ :=
        (gives.noFraction v (firstOf_eq_some_iff.mp found)).exists_number?
      rw [Option.bind_some, number]
      exact same

theorem ofObject_of_givesSecond (gives : GivesSecond members s) (small : s.natAbs < 2 ^ 53) :
    ofObject members = .ok (Calendar.ofSeconds? s 0) := by
  obtain ⟨v, holds, isNumber⟩ := gives.second
  obtain ⟨a, number, same, -⟩ := isNumber.exists_number?
  obtain ⟨x, seconds, whole⟩ := IsWhole.exists_toFloat same small
  obtain ⟨z, nanos, zero⟩ := IsWhole.exists_toFloat gives.nanos (by decide)
  have sum := whole.add_zero zero.zero_div_billion
  unfold ofObject
  rw [firstOf_eq_some_iff.mpr holds, Option.bind_some, number]
  dsimp only
  rw [nanos, seconds]
  exact congrArg Except.ok (Calendar.ofEpoch?_whole sum)

end Objects

/-! ## All encodings -/

/-- The values in which a record gives a whole second since 1970: objects, seconds up to the limit
and milliseconds above it. -/
inductive GivesInstant (s : Int) : Json → Prop
  | object {members : Members} : GivesSecond members s → GivesInstant s (.obj members)
  | seconds {v : Json} : IsNumber v s → s ≤ 100000000000 → GivesInstant s v
  | milliseconds {v : Json} : IsNumber v (1000 * s) → 100000000000 < 1000 * s → GivesInstant s v

theorem read_of_givesInstant (gives : GivesInstant s v) (first : -62135596800 ≤ s)
    (last : s ≤ 253402300799) : read v = .ok (Calendar.ofSeconds? s 0) := by
  cases gives with
  | object gives => exact ofObject_of_givesSecond gives (by omega)
  | seconds isNumber few =>
      obtain ⟨a, -, same, reads⟩ := isNumber.exists_number?
      rw [reads, ofNumber_seconds same (by omega) few]
  | milliseconds isNumber many =>
      obtain ⟨a, -, same, reads⟩ := isNumber.exists_number?
      rw [reads, ofNumber_milliseconds same (by omega) many]

/-- All encodings of a time in universal time are read as the time: the text that is written for it,
with or without the offset and with blanks around it, and, if the time is a whole second, whatever
gives that second.  The seconds of the calendar run from its first midnight to the end of the year
9999. -/
theorem read_encodings :
    (∀ t : DateTime, t.isValid = true → t.offset = some 0 →
      (∃ text, Render.time (some t) = .ofString (text ++ "+00:00") ∧
        ∀ before after, Blank before → Blank after →
          read (.ofString (before ++ (text ++ "+00:00") ++ after)) = .ok (some t) ∧
          read (.ofString (before ++ text ++ after)) = .ok (some t)) ∧
      ∀ s, t.AtSecond s → ∀ v, GivesInstant s v → read v = .ok (some t)) ∧
    ∀ s, (∃ t : DateTime, t.isValid = true ∧ t.offset = some 0 ∧ t.AtSecond s) ↔
      -62135596800 ≤ s ∧ s ≤ 253402300799 := by
  refine ⟨fun t valid universal => ⟨?_, fun s atSecond v gives => ?_⟩,
    fun s => DateTime.exists_atSecond_iff⟩
  · refine ⟨DateTime.iso { t with offset := none }, ?_, fun before after inBefore inAfter => ?_⟩
    · rw [← iso_universal universal]
      rfl
    · have again : { t with offset := some (t.offset.getD 0) } = t := by
        rw [universal, Option.getD_some, ← universal]
      simp only [read_ofString]
      constructor
      · rw [← iso_universal universal]
        have reads := ofText_iso valid (by simp [universal]) inBefore inAfter
        rw [again] at reads
        exact reads
      · have bare := @ofText_iso { t with offset := none } valid (by simp) _ _ inBefore inAfter
        rw [Option.getD_none, ← universal] at bare
        exact bare
  · obtain ⟨first, last⟩ := DateTime.exists_atSecond_iff.mp ⟨t, valid, universal, atSecond⟩
    rw [read_of_givesInstant gives first last, DateTime.ofSeconds?_eq valid universal atSecond]

/-- Half past twelve on a leap day. -/
theorem read_encodings_of_leap_day :
    let t : DateTime := ⟨⟨2024, 2, 29⟩, 12, 30, 15, 0, some 0⟩
    t.isValid = true ∧ t.offset = some 0 ∧ t.AtSecond 1709209815 ∧
    Render.time (some t) = .ofString ("2024-02-29T12:30:15" ++ "+00:00") ∧
    read (.ofString (" \t" ++ "2024-02-29T12:30:15" ++ "\n")) = .ok (some t) ∧
    read (.obj [("_seconds", .int 1709209815)]) = .ok (some t) ∧
    read (.obj [("nanoseconds", .float 0), ("seconds", .int 1709209815)]) = .ok (some t) ∧
    read (.int 1709209815) = .ok (some t) ∧ read (.int 1709209815000) = .ok (some t) := by
  intro t
  have valid : t.isValid = true := by decide
  have atSecond : t.AtSecond 1709209815 := by
    unfold DateTime.AtSecond
    decide
  have written : t.iso = "2024-02-29T12:30:15" ++ "+00:00" := by decide +kernel
  obtain ⟨⟨text, renders, reads⟩, gives⟩ := read_encodings.1 t valid rfl
  obtain rfl : "2024-02-29T12:30:15" = text :=
    (String.append_left_inj _).mp
      (written.symm.trans (Phrase.ofString_inj.mp (Json.str.inj renders)))
  have instant := gives _ atSecond
  have underscored : GivesSecond [("_seconds", .int 1709209815)] 1709209815 :=
    ⟨⟨_, .inl rfl, .int _⟩, by rintro v (found | ⟨-, found⟩) <;> cases found⟩
  have withZero : GivesSecond [("nanoseconds", .float 0), ("seconds", .int 1709209815)]
      1709209815 := by
    refine ⟨⟨_, .inr ⟨rfl, rfl⟩, .int _⟩, ?_⟩
    rintro v (found | ⟨-, found⟩) <;> cases found
    exact .float (by decide +kernel)
  have blanks : Blank " \t" ∧ Blank "\n" :=
    ⟨List.all_eq_true.mp (by decide), List.all_eq_true.mp (by decide)⟩
  have around := reads " \t" "\n" blanks.1 blanks.2
  exact ⟨valid, rfl, atSecond, renders, around.2, instant _ (.object underscored),
    instant _ (.object withZero), instant _ (.seconds (.int _) (by decide)),
    instant _ (.milliseconds (.int _) (by decide))⟩

end Bazaar.Timestamp
