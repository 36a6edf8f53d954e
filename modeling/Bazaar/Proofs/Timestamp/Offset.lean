import Bazaar.Proofs.Calendar.Instant
import Bazaar.Proofs.Timestamp
import Bazaar.Render.Console

/-!
# The offset of a timestamp

A time keeps the distance from universal time with which it was written.  Objects and numbers give
universal time, and so do texts without an offset, but two texts may give one instant on two days.
-/

namespace Bazaar.Timestamp

open Calendar (DateTime)

variable {v v' : Json} {t u : DateTime}

/-- The minutes east of universal time that a value is written with: those of a text that gives
them, and zero for any other value. -/
def writtenOffset : Json → Int
  | .str p =>
    match p.string?.map fun s => Calendar.Iso.read (Text.trim s) with
    | some (.ok t) => t.offset.getD 0
    | _ => 0
  | _ => 0

/-- A time of the calendar so many minutes east of universal time, and less than a day. -/
structure IsAt (t : DateTime) (minutes : Int) : Prop where
  valid : t.isValid = true
  offset : t.offset = some minutes
  nearBy : minutes.natAbs < 1440

theorem IsAt.nearBy_offset {minutes : Int} (isAt : IsAt t minutes) :
    Calendar.Iso.NearBy t.offset := by
  rw [isAt.offset]
  rintro _ ⟨⟩
  exact isAt.nearBy

theorem IsAt.date_number {minutes : Int} (isAt : IsAt t minutes) :
    (t.date.number : Int) = DateTime.dayAt t.micros minutes := by
  rw [DateTime.date_number isAt.valid, isAt.offset, Option.getD_some]

/-- Times that are one instant are one time if and only if they have one offset. -/
theorem IsAt.eq_iff {m n : Int} (isAt : IsAt t m) (isAt' : IsAt u n)
    (instant : t.micros = u.micros) : t = u ↔ m = n := by
  constructor
  · rintro rfl
    exact Option.some.inj (isAt.offset.symm.trans isAt'.offset)
  · rintro rfl
    exact DateTime.eq_of_micros_eq isAt.valid isAt'.valid (isAt.offset.trans isAt'.offset.symm)
      instant

theorem IsAt.time_eq_iff {m n : Int} (isAt : IsAt t m) (isAt' : IsAt u n) :
    Render.time (some t) = Render.time (some u) ↔ t = u := by
  have texts : Render.time (some t) = Render.time (some u) ↔ (t.iso : Phrase) = u.iso :=
    iff_of_eq (Json.str.injEq _ _)
  rw [texts, Phrase.ofString_inj,
    DateTime.iso_inj isAt.valid isAt'.valid isAt.nearBy_offset isAt'.nearBy_offset]

theorem IsAt.dateText_eq_iff {m n : Int} (isAt : IsAt t m) (isAt' : IsAt u n) :
    Render.dateText (some t) = Render.dateText (some u) ↔
      DateTime.dayAt t.micros m = DateTime.dayAt u.micros n := by
  have validDate := (DateTime.isValid_iff.mp isAt.valid).1
  have validDate' := (DateTime.isValid_iff.mp isAt'.valid).1
  rw [← isAt.date_number, ← isAt'.date_number, Nat.cast_inj]
  refine (Calendar.Date.short_inj validDate validDate').trans ⟨congrArg _, fun number => ?_⟩
  rw [← Calendar.Date.ofNumber_number validDate, number,
    Calendar.Date.ofNumber_number validDate']

/-! ## What is read -/

/-- A number of seconds that the calendar has is read as universal time. -/
theorem isAt_of_ofEpoch? {a : Number} (found : Calendar.ofEpoch? a = some t) : IsAt t 0 := by
  obtain ⟨valid, offset⟩ := Calendar.ofEpoch?_valid found
  exact ⟨valid, offset, by decide⟩

theorem isAt_of_ofObject {members : Members} (reads : ofObject members = .ok (some t)) :
    IsAt t 0 := by
  unfold ofObject at reads
  split at reads
  · cases reads
  · obtain ⟨x, -, reads⟩ := exists_of_bind_eq_ok reads
    obtain ⟨y, -, reads⟩ := exists_of_bind_eq_ok reads
    exact isAt_of_ofEpoch? (Except.ok.inj reads)

theorem isAt_of_ofNumber {a : Number} (reads : ofNumber a = .ok (some t)) : IsAt t 0 := by
  unfold ofNumber at reads
  split at reads
  · split at reads
    · obtain ⟨x, -, reads⟩ := exists_of_bind_eq_ok reads
      exact isAt_of_ofEpoch? (Except.ok.inj reads)
    · exact isAt_of_ofEpoch? (Except.ok.inj reads)
  · exact isAt_of_ofEpoch? (Except.ok.inj reads)

theorem writtenOffset_of_read {s : String} (spelled : Calendar.Iso.read (Text.trim s) = .ok t) :
    writtenOffset (.ofString s) = t.offset.getD 0 := by
  rw [Json.ofString, writtenOffset, Phrase.string?_ofString, Option.map_some, spelled]

theorem isAt_of_ofText {s : String} (reads : ofText s = .ok (some t)) :
    IsAt t (writtenOffset (.ofString s)) := by
  unfold ofText at reads
  dsimp only at reads
  split at reads
  · cases reads
  · split at reads
    · rename_i written spelled
      cases reads
      obtain ⟨valid, nearBy⟩ := Calendar.Iso.isValid_of_read spelled
      rw [writtenOffset_of_read spelled]
      refine ⟨valid, rfl, ?_⟩
      cases known : written.offset with
      | none => decide
      | some m => exact nearBy m known
    · cases reads
    · cases reads

theorem isAt_of_ofPhrase {p : Phrase} (reads : ofPhrase p = .ok (some t)) :
    IsAt t (writtenOffset (.str p)) := by
  unfold ofPhrase at reads
  split at reads
  · rename_i s text
    obtain rfl := Phrase.string?_eq_some_iff.mp text
    exact isAt_of_ofText reads
  · cases reads

/-- A value is read as a time of the calendar with the offset it is written with. -/
theorem isAt_of_read (reads : read v = .ok (some t)) : IsAt t (writtenOffset v) := by
  unfold read at reads
  split at reads
  · exact isAt_of_ofObject reads
  · exact isAt_of_ofNumber reads
  · exact isAt_of_ofNumber reads
  · exact isAt_of_ofPhrase reads
  · cases reads

/-- Times with any offset shorter than a day are read. -/
theorem read_iso {minutes : Int} (isAt : IsAt t minutes) : read (.ofString t.iso) = .ok (some t) := by
  have noBlank : Blank "" := by simp [Blank]
  have reads := ofText_iso isAt.valid isAt.nearBy_offset noBlank noBlank
  have again : { t with offset := some (t.offset.getD 0) } = t := by
    rw [isAt.offset, Option.getD_some, ← isAt.offset]
  rw [again, String.empty_append, String.append_empty] at reads
  exact (read_ofString t.iso).trans reads

/-- A value is read as a time of the calendar with the offset it is written with, which is zero for
all but a text that gives another one, and falls on the day that its instant has there; and the same
fields are read with any other offset shorter than a day, if they are written with it.  Hence
another value of the same instant gives the same time, and the same text of it, exactly if it is
written with the same offset, and is shown with the same date exactly if the instant falls on one
day at both. -/
theorem read_keeps_written_offset (v : Json) (t : DateTime) (reads : read v = .ok (some t)) :
    IsAt t (writtenOffset v) ∧
    (t.date.number : Int) = DateTime.dayAt t.micros (writtenOffset v) ∧
    (∀ minutes : Int, minutes.natAbs < 1440 →
      let u : DateTime := { t with offset := some minutes }
      read (.ofString u.iso) = .ok (some u) ∧ writtenOffset (.ofString u.iso) = minutes) ∧
    ∀ v' u, read v' = .ok (some u) → t.same u = true →
      (t = u ↔ writtenOffset v = writtenOffset v') ∧
      (Render.time (some t) = Render.time (some u) ↔ writtenOffset v = writtenOffset v') ∧
      (Render.dateText (some t) = Render.dateText (some u) ↔
        DateTime.dayAt t.micros (writtenOffset v) =
          DateTime.dayAt t.micros (writtenOffset v')) := by
  have isAt := isAt_of_read reads
  refine ⟨isAt, isAt.date_number, ?_, fun v' u reads' same => ?_⟩
  · intro minutes nearBy u
    have reads' := @read_iso u minutes ⟨isAt.valid, rfl, nearBy⟩
    exact ⟨reads', (Option.some.inj (isAt_of_read reads').offset).symm⟩
  · have isAt' := isAt_of_read reads'
    have instant : t.micros = u.micros := by
      simp only [DateTime.same, Bool.and_eq_true, beq_iff_eq] at same
      exact same.2
    have one := isAt.eq_iff isAt' instant
    refine ⟨one, (isAt.time_eq_iff isAt').trans one, ?_⟩
    rw [isAt.dateText_eq_iff isAt', instant]

/-- Half past midnight on the first of March, two hours east of universal time, where it is still
the leap day. -/
theorem read_keeps_written_offset_over_midnight :
    let t : DateTime := ⟨⟨2024, 3, 1⟩, 0, 30, 0, 0, some 120⟩
    let u : DateTime := ⟨⟨2024, 2, 29⟩, 22, 30, 0, 0, some 0⟩
    read (.ofString "2024-03-01T00:30:00+02:00") = .ok (some t) ∧
      read (.int 1709245800) = .ok (some u) ∧ t.same u = true ∧ t ≠ u ∧
      Render.time (some t) ≠ Render.time (some u) ∧
      Render.dateText (some t) ≠ Render.dateText (some u) := by
  intro t u
  have written : t.iso = "2024-03-01T00:30:00+02:00" := by decide +kernel
  have reads : read (.ofString "2024-03-01T00:30:00+02:00") = .ok (some t) := by
    rw [← written]
    exact read_iso ⟨by decide, rfl, by decide⟩
  have reads' : read (.int 1709245800) = .ok (some u) := by decide +kernel
  have same : t.same u = true := by decide +kernel
  obtain ⟨isAt, -, -, others⟩ := read_keeps_written_offset _ t reads
  obtain ⟨one, text, day⟩ := others _ u reads' same
  have offset := Option.some.inj isAt.offset
  have east : writtenOffset (.ofString "2024-03-01T00:30:00+02:00") ≠
      writtenOffset (.int 1709245800) := by
    rw [← offset]
    decide
  refine ⟨reads, reads', same, mt one.mp east, mt text.mp east, mt day.mp ?_⟩
  rw [← offset]
  decide +kernel

end Bazaar.Timestamp
