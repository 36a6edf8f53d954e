import Bazaar.Calendar.Iso
import Bazaar.Proofs.Calendar.Epoch
import Bazaar.Proofs.Text.Digit

/-!
# ISO 8601 read back

The text of a time is read as the same time, with or without a fraction of a second and with or
without an offset.
-/

namespace Bazaar.Calendar.Iso

open Text (padZeros digitsInBase paddedNat)

/-! ## Fields -/

/-- The digits of a number of some width. -/
def digits (width n : Nat) : List Char :=
  padZeros width (digitsInBase 10 n)

theorem toList_paddedNat (width n : Nat) : (paddedNat width n).toList = digits width n :=
  String.toList_ofList

theorem field_digits (width n : Nat) : field (digits width n) = .ok (n : Int) := by
  rw [field, digits, Text.int?_padZeros]

/-- A text that begins with a whole field is long enough for it. -/
theorem not_length_lt {width : Nat} {front : List Char} (whole : front.length = width)
    (rest : List Char) : ¬(front ++ rest).length < width := by
  rw [List.length_append, whole]
  omega

theorem length_two {n : Nat} (fits : n < 100) : (digits 2 n).length = 2 :=
  Text.length_padZeros (by decide) fits

theorem length_four {n : Nat} (fits : n < 10000) : (digits 4 n).length = 4 :=
  Text.length_padZeros (by decide) fits

theorem length_six {n : Nat} (fits : n < 1000000) : (digits 6 n).length = 6 :=
  Text.length_padZeros (by decide) fits

theorem isDigit_of_mem_digits {width n : Nat} {c : Char} (member : c ∈ digits width n) :
    c.isDigit = true :=
  Text.isDigit_of_mem_padZeros member

theorem startsOffset_of_isDigit {c : Char} (digit : c.isDigit = true) : startsOffset c = false := by
  rw [Text.isDigit_iff_toNat] at digit
  have differs (d : Char) (outside : d.toNat < 48 ∨ 57 < d.toNat) : (c == d) = false := by
    rw [beq_eq_false_iff_ne]
    rintro rfl
    omega
  simp only [startsOffset, differs '-' (by decide), differs '+' (by decide),
    differs 'Z' (by decide), differs 'z' (by decide), Bool.or_false]

/-! ## Dates -/

theorem calendarForm_digits {year month day : Nat} (inYears : year < 10000) (inMonths : month < 100)
    (inDays : day < 100) (rest : List Char) :
    calendarForm (digits 4 year ++ '-' :: (digits 2 month ++ '-' :: (digits 2 day ++ rest))) =
      .ok ((year, month, day), rest) := by
  have four := length_four inYears
  have two := length_two inMonths
  have two' := length_two inDays
  unfold calendarForm
  rw [if_neg (not_length_lt four _), List.take_left' four, List.drop_left' four, field_digits]
  simp only [bind, Except.bind, pure, Except.pure]
  rw [if_neg (not_length_lt two _), List.take_left' two, List.drop_left' two, field_digits]
  simp only
  rw [if_neg (not_length_lt two' _), List.take_left' two', List.drop_left' two', field_digits]

/-! ## Offsets -/

theorem toList_offsetText (minutes : Int) :
    (DateTime.offsetText minutes).toList = (if minutes < 0 then '-' else '+') ::
      (digits 2 (minutes.natAbs / 60) ++ ':' :: digits 2 (minutes.natAbs % 60)) := by
  unfold DateTime.offsetText
  dsimp only
  split <;> simp [toList_paddedNat]

theorem offsetOf_natCast (sign : Char) {hours minutes : Nat} (inDay : hours < 24)
    (inHour : minutes < 60) : offsetOf sign hours minutes =
      .ok (if sign = '-' then -(hours * 60 + minutes : Int) else hours * 60 + minutes) := by
  unfold offsetOf
  split
  · rename_i zero
    have none_there : hours = 0 ∧ minutes = 0 := by simpa using zero
    simp [none_there, pure, Except.pure]
  · rw [if_neg (by simp; omega)]
    simp only [beq_iff_eq, pure, Except.pure]

theorem offset_digits {sign : Char} (isSign : sign = '+' ∨ sign = '-') {hours minutes : Nat}
    (inDay : hours < 24) (inHour : minutes < 60) :
    offset (sign :: (digits 2 hours ++ ':' :: digits 2 minutes)) =
      .ok (if sign = '-' then -(hours * 60 + minutes : Int) else hours * 60 + minutes) := by
  have two := length_two (show hours < 100 by omega)
  have two' := length_two (show minutes < 100 by omega)
  have long : (digits 2 hours ++ ':' :: digits 2 minutes).length = 5 := by simp [two, two']
  unfold offset
  split
  · rename_i short
    simp [(List.cons.inj short).2] at long
  · rename_i short
    simp [(List.cons.inj short).2] at long
  · rename_i spelled
    cases spelled
    rw [if_neg (by simp [long]), if_neg (by rcases isSign with rfl | rfl <;> decide),
      List.take_left' two, List.drop_left' two, field_digits]
    simp only [bind, Except.bind, field_digits]
    exact offsetOf_natCast sign inDay inHour
  · rename_i absurdly
    cases absurdly

/-- An offset is read back if it is shorter than a day. -/
theorem offset_offsetText {minutes : Int} (inDay : minutes.natAbs < 1440) :
    offset (DateTime.offsetText minutes).toList = .ok minutes := by
  rw [toList_offsetText, offset_digits (by split <;> simp) (by omega) (by omega)]
  by_cases west : minutes < 0
  · rw [if_pos west, if_pos rfl]
    congr 1
    omega
  · rw [if_neg west, if_neg (by decide)]
    congr 1
    omega

/-! ## Times of day -/

/-- A fraction of a second with six digits. -/
theorem fraction_digits {micro : Nat} (inSecond : micro < 1000000) {rest : List Char}
    (ends : ∀ c ∈ rest.head?, c.isDigit = false) :
    fraction ('.' :: (digits 6 micro ++ rest)) = some (micro, rest) := by
  have six := length_six inSecond
  have run : (digits 6 micro ++ rest).takeWhile Text.isAsciiDigit = digits 6 micro :=
    (Filter.run_append
      (fun c member => (Text.isAsciiDigit_eq_isDigit c).trans (isDigit_of_mem_digits member))
      fun c first => (Text.isAsciiDigit_eq_isDigit c).trans (ends c first)).1
  have some_digit : digits 6 micro ≠ [] := by
    intro empty
    simp [empty] at six
  have value : Text.natOfDigits ((digits 6 micro).filterMap Text.digitValue?) = micro :=
    Text.natOfDigits_padZeros 6 micro
  unfold fraction
  simp only [run]
  rw [if_pos (by simp [some_digit]), List.take_of_length_le (by omega), value, six,
    List.drop_left' six]
  simp

/-- What stands behind the seconds of a time. -/
def behindSeconds (micro : Nat) (offset : Option Int) : List Char :=
  (if micro = 0 then [] else '.' :: digits 6 micro) ++
    ((offset.map DateTime.offsetText).getD "").toList

/-- An offset begins with its sign. -/
theorem exists_sign (minutes : Int) : ∃ c rest, (DateTime.offsetText minutes).toList = c :: rest ∧
    startsOffset c = true ∧ c.isDigit = false := by
  rw [toList_offsetText]
  refine ⟨_, _, rfl, ?_⟩
  split <;> decide

theorem afterSecond_behindSeconds (hour minute second : Int) {micro : Nat}
    (inSecond : micro < 1000000) {offset : Option Int} (nearBy : ∀ m ∈ offset, m.natAbs < 1440) :
    afterSecond ⟨hour, minute, second, 0, none⟩ (behindSeconds micro offset) =
      .ok ⟨hour, minute, second, micro, offset⟩ := by
  unfold behindSeconds
  by_cases whole : micro = 0
  · rw [if_pos whole, List.nil_append, whole]
    cases offset with
    | none => rfl
    | some minutes =>
        have read := offset_offsetText (nearBy minutes rfl)
        obtain ⟨c, rest, spelled, starts, -⟩ := exists_sign minutes
        simp only [Option.map_some, Option.getD_some]
        rw [spelled] at read ⊢
        simp only [afterSecond, starts, read]
        rfl
  · rw [if_neg whole]
    cases offset with
    | none =>
        have read : fraction ('.' :: (digits 6 micro ++ [])) = some (micro, []) :=
          fraction_digits inSecond (by simp)
        simp only [Option.map_none, Option.getD_none, List.cons_append, String.toList_empty,
          afterSecond, read]
        rfl
    | some minutes =>
        have read := offset_offsetText (nearBy minutes rfl)
        obtain ⟨c, rest, spelled, starts, notDigit⟩ := exists_sign minutes
        simp only [Option.map_some, Option.getD_some]
        rw [spelled] at read ⊢
        have readFraction : fraction ('.' :: (digits 6 micro ++ c :: rest)) =
            some (micro, c :: rest) := fraction_digits inSecond (by simpa using notDigit)
        simp only [List.cons_append, afterSecond, readFraction, starts, read]
        rfl

theorem afterMinute_digits (hour minute : Int) {second micro : Nat} {offset : Option Int}
    (inMinute : second < 60) (inSecond : micro < 1000000)
    (nearBy : ∀ m ∈ offset, m.natAbs < 1440) :
    afterMinute ⟨hour, minute, 0, 0, none⟩ true
      (':' :: (digits 2 second ++ behindSeconds micro offset)) =
        .ok ⟨hour, minute, second, micro, offset⟩ := by
  have two := length_two (show second < 100 by omega)
  unfold afterMinute
  simp only [if_true]
  rw [if_neg (by decide), if_neg (by decide), List.take_left' two, List.drop_left' two,
    field_digits]
  simp only [bind, Except.bind]
  exact afterSecond_behindSeconds hour minute second inSecond nearBy

theorem afterHour_digits (hour : Int) {minute second micro : Nat} {offset : Option Int}
    (inHour : minute < 60) (inMinute : second < 60) (inSecond : micro < 1000000)
    (nearBy : ∀ m ∈ offset, m.natAbs < 1440) :
    afterHour ⟨hour, 0, 0, 0, none⟩ (':' :: (digits 2 minute ++
      ':' :: (digits 2 second ++ behindSeconds micro offset))) =
        .ok ⟨hour, minute, second, micro, offset⟩ := by
  have two := length_two (show minute < 100 by omega)
  unfold afterHour
  simp only [beq_self_eq_true, if_true]
  rw [if_neg (by decide), List.take_left' two, List.drop_left' two, field_digits]
  simp only [bind, Except.bind]
  exact afterMinute_digits hour minute inMinute inSecond nearBy

theorem time_digits {hour minute second micro : Nat} {offset : Option Int} (inDay : hour < 24)
    (inHour : minute < 60) (inMinute : second < 60) (inSecond : micro < 1000000)
    (nearBy : ∀ m ∈ offset, m.natAbs < 1440) :
    time (digits 2 hour ++ ':' :: (digits 2 minute ++ ':' :: (digits 2 second ++
      behindSeconds micro offset))) = .ok ⟨hour, minute, second, micro, offset⟩ := by
  have two := length_two (show hour < 100 by omega)
  have first (c : Char) (isFirst : (digits 2 hour).head? = some c) : c.isDigit = true :=
    isDigit_of_mem_digits (List.mem_of_mem_head? isFirst)
  unfold time
  rw [if_neg (not_length_lt two _)]
  split
  · rename_i empty
    have absurdly := congrArg List.length empty
    simp at absurdly
  · rename_i c rest spelled
    have some_digit : digits 2 hour ≠ [] := by
      intro empty
      simp [empty] at two
    have head := congrArg List.head? spelled
    rw [List.head?_append_of_ne_nil _ some_digit] at head
    rw [if_neg (by simp [startsOffset_of_isDigit (first c head)]), List.take_left' two,
      List.drop_left' two, field_digits]
    simp only [bind, Except.bind, pure, Except.pure]
    rw [afterHour_digits hour inHour inMinute inSecond nearBy]
    have notMidnight : ((hour : Int) == 24) = false := by
      rw [beq_eq_false_iff_ne]
      omega
    simp [notMidnight]

/-! ## Whole texts -/

/-- The characters of the text of a time. -/
theorem toList_iso (t : DateTime) :
    t.iso.toList = digits 4 t.date.year ++ '-' :: (digits 2 t.date.month ++
      '-' :: (digits 2 t.date.day ++ 'T' :: (digits 2 t.hour ++ ':' :: (digits 2 t.minute ++
        ':' :: (digits 2 t.second ++ behindSeconds t.micro t.offset))))) := by
  unfold DateTime.iso DateTime.textWith DateTime.clock Date.iso behindSeconds
  by_cases whole : t.micro = 0
  · simp [toList_paddedNat, whole]
  · simp [toList_paddedNat, whole]

theorem build_eq {t : DateTime} (valid : t.isValid = true) :
    build (t.date.year, t.date.month, t.date.day) ⟨t.hour, t.minute, t.second, t.micro, t.offset⟩ =
      .ok t := by
  have natural_cast (n : Nat) : natural n = .ok n := by
    rw [natural, if_pos (Int.natCast_nonneg n), Int.toNat_natCast]
  obtain ⟨-, inDay, -⟩ := DateTime.isValid_iff.mp valid
  have notMidnight : ((t.hour : Int) == 24) = false := by
    rw [beq_eq_false_iff_ne]
    omega
  unfold build
  simp only [notMidnight, natural_cast, bind, Except.bind, pure, Except.pure, Bool.false_eq_true,
    if_false]
  rw [valid]
  rfl

/-- The characters of which the text of a time is made. -/
def IsMark (c : Char) : Prop :=
  c.isDigit = true ∨ c ∈ ['-', '+', ':', '.', 'T']

theorem IsMark.isAscii {c : Char} (isMark : IsMark c) : c.toNat < 0x80 := by
  rcases isMark with digit | other
  · rw [Text.isDigit_iff_toNat] at digit
    omega
  · simp only [List.mem_cons, List.not_mem_nil, or_false] at other
    rcases other with rfl | rfl | rfl | rfl | rfl <;> decide

theorem IsMark.not_isBlank {c : Char} (isMark : IsMark c) : Text.isBlank c = false := by
  rcases isMark with digit | other
  · rw [Text.isDigit_iff_toNat] at digit
    simp [Text.isBlank]
    omega
  · simp only [List.mem_cons, List.not_mem_nil, or_false] at other
    rcases other with rfl | rfl | rfl | rfl | rfl <;> decide

theorem isMark_of_mem_behindSeconds {micro : Nat} {offset : Option Int} {c : Char}
    (member : c ∈ behindSeconds micro offset) : IsMark c := by
  have inDigits {width n : Nat} (member : c ∈ digits width n) : IsMark c :=
    .inl (isDigit_of_mem_digits member)
  rcases List.mem_append.mp member with inFraction | inOffset
  · split at inFraction
    · cases inFraction
    · rcases List.mem_cons.mp inFraction with rfl | inFraction
      · exact .inr (by decide)
      · exact inDigits inFraction
  · cases offset with
    | none => simp at inOffset
    | some minutes =>
        simp only [Option.map_some, Option.getD_some, toList_offsetText, List.mem_cons,
          List.mem_append] at inOffset
        rcases inOffset with rfl | hours | rfl | minutes
        · exact .inr (by split <;> decide)
        · exact inDigits hours
        · exact .inr (by decide)
        · exact inDigits minutes

theorem isMark_of_mem_iso {t : DateTime} : ∀ c ∈ t.iso.toList, IsMark c := by
  intro c member
  rw [toList_iso] at member
  simp only [List.mem_append, List.mem_cons] at member
  rcases member with inDigits | rfl | inDigits | rfl | inDigits | rfl | inDigits | rfl | inDigits |
    rfl | inDigits | behind
  all_goals first
    | exact .inl (isDigit_of_mem_digits inDigits)
    | exact isMark_of_mem_behindSeconds behind
    | exact .inr (by decide)

/-- The text of a time is read as the time if its offset is missing or shorter than a day. -/
theorem read_iso {t : DateTime} (valid : t.isValid = true)
    (nearBy : ∀ m ∈ t.offset, m.natAbs < 1440) : read t.iso = .ok t := by
  obtain ⟨validDate, inDay, inHour, inMinute, inSecond⟩ := DateTime.isValid_iff.mp valid
  obtain ⟨⟨-, inYears⟩, ⟨-, inMonths⟩, -, inMonth⟩ := Date.isValid_iff.mp validDate
  have ascii : (t.iso.toList.any fun c => 0x80 ≤ c.toNat) = false := by
    simpa using fun c member => (isMark_of_mem_iso c member).isAscii
  have month := daysInMonth_le t.date.year t.date.month
  have readDate := calendarForm_digits (show t.date.year < 10000 by omega)
    (show t.date.month < 100 by omega) (show t.date.day < 100 by omega)
  have readTime := time_digits inDay inHour inMinute inSecond nearBy
  unfold read
  dsimp only
  rw [ascii, if_neg Bool.false_ne_true, toList_iso, date, readDate]
  simp only [bind, Except.bind, readTime]
  exact build_eq valid

end Bazaar.Calendar.Iso
