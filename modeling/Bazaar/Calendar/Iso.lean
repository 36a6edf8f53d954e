import Bazaar.Calendar.DateTime
import Bazaar.Number
import Bazaar.Text.Digit

/-!
# Reading ISO 8601

Reads a date in calendar, week or ordinal form, and a time of day with a fraction and an offset
behind any one separator.  Fields are cut by position and read as integers, so a field may hold a
sign or a blank.  Each reader takes the characters that are left and returns what follows.
-/

namespace Bazaar.Calendar.Iso

/-- Why a text gives no date: it has no such form, or the date lies behind the last year. -/
inductive Fault where
  | malformed
  | outOfRange
  deriving DecidableEq, Repr

/-- The outcome of a reader. -/
abbrev Result (α : Type) := Except Fault α

/-- The integer in a field: blanks around it, a sign, digits, single underscores. -/
def field (cs : List Char) : Result Int :=
  match Text.int? cs with
  | some n => .ok n
  | none => .error .malformed

/-- A natural number in a field; a negative one fits no date. -/
def natural (n : Int) : Result Nat :=
  if 0 ≤ n then .ok n.toNat else .error .malformed

/-- Year, month and day as written, before they are checked. -/
abbrev RawDate := Int × Int × Int

/-- Reads `YYYY`, `YYYY-MM`, `YYYY-MM-DD` or `YYYYMMDD`. -/
def calendarForm (cs : List Char) : Result (RawDate × List Char) := do
  if cs.length < 4 then throw .malformed
  let year ← field (cs.take 4)
  match cs.drop 4 with
  | [] => return ((year, 1, 1), [])
  | '-' :: rest =>
    if rest.length < 2 then throw .malformed
    let month ← field (rest.take 2)
    match rest.drop 2 with
    | [] => return ((year, month, 1), [])
    | '-' :: rest =>
      if rest.length < 2 then throw .malformed
      let day ← field (rest.take 2)
      return ((year, month, day), rest.drop 2)
    | _ => throw .malformed
  | rest =>
    if rest.length < 4 then throw .malformed
    let month ← field (rest.take 2)
    let day ← field ((rest.drop 2).take 2)
    return ((year, month, day), rest.drop 4)

/-- A year as written, if the calendar has it. -/
def knownYear (year : Int) : Result Nat :=
  if 1 ≤ year && year ≤ 9999 then .ok year.toNat else .error .malformed

/-- The date of a day of an ISO week; week 1 holds the fourth of January. -/
def weekDate (year week day : Int) : Result RawDate := do
  if week < 1 || 53 < week || day < 1 || 7 < day then throw .malformed
  let y ← knownYear year
  let fourth : Date := ⟨y, 1, 4⟩
  let monday : Int := (fourth.number : Int) - fourth.weekday
  match Date.ofNumber? (monday + (week - 1) * 7 + (day - 1)) with
  | some d => return (d.year, d.month, d.day)
  | none => throw .outOfRange

/-- Reads the week part of `YYYY-Www-D` or `YYYYWwwD`; the day may be missing. -/
def weekForm (year : Int) (dashed : Bool) (cs : List Char) : Result (RawDate × List Char) := do
  let week ← field (cs.take 2)
  match cs.drop 2 with
  | [] => return (← weekDate year week 1, [])
  | c :: rest =>
    if (c == '-') != dashed then throw .malformed
    let rest := if dashed then rest else c :: rest
    let day ← field (rest.take 1)
    return (← weekDate year week day, rest.drop 1)

/-- Reads the day number of `YYYY-DDD` or `YYYYDDD`. -/
def ordinalForm (year : Int) (cs : List Char) : Result (RawDate × List Char) := do
  if cs.length < 3 then throw .malformed
  let day ← field (cs.take 3)
  let leap := if year % 4 == 0 && (year % 100 != 0 || year % 400 == 0) then 1 else 0
  if day < 1 || 365 + leap < day then throw .malformed
  let y ← knownYear year
  let d := Date.inYear y (day.toNat - 1)
  return ((d.year, d.month, d.day), cs.drop 3)

/-- Reads a date by week or by day of the year. -/
def otherForm (cs : List Char) : Result (RawDate × List Char) := do
  if cs.length < 4 then throw .malformed
  let year ← field (cs.take 4)
  let (dashed, rest) :=
    match cs.drop 4 with
    | '-' :: rest => (true, rest)
    | rest => (false, rest)
  match rest with
  | 'W' :: rest => weekForm year dashed rest
  | rest => ordinalForm year rest

/-- Reads a date, by calendar if possible. -/
def date (cs : List Char) : Result (RawDate × List Char) :=
  match calendarForm cs with
  | .error .malformed => otherForm cs
  | result => result

/-- The minutes of an offset that is written with a sign, its hours and its minutes. -/
def offsetOf (sign : Char) (hours minutes : Int) : Result Int := do
  if hours == 0 && minutes == 0 then return 0
  if 59 < minutes || 23 < hours then throw .malformed
  let total := hours * 60 + minutes
  return if sign == '-' then -total else total

/-- Reads an offset from universal time, to the end of the text. -/
def offset (cs : List Char) : Result Int := do
  match cs with
  | ['Z'] | ['z'] => return 0
  | sign :: rest =>
    if !(rest.length == 2 || rest.length == 4 || rest.length == 5) then throw .malformed
    if sign != '+' && sign != '-' then throw .malformed
    let hours ← field (rest.take 2)
    let minutes ←
      match rest.drop 2 with
      | [] => pure 0
      | ':' :: rest => field rest
      | rest => field rest
    offsetOf sign hours minutes
  | [] => throw .malformed

/-- A time of day as written, before it is checked. -/
structure RawTime where
  hour : Int := 0
  minute : Int := 0
  second : Int := 0
  micro : Nat := 0
  offset : Option Int := none

/-- Whether a character starts an offset. -/
def startsOffset (c : Char) : Bool :=
  c == '-' || c == '+' || c == 'Z' || c == 'z'

/-- Reads a fraction of a second; digits behind the sixth are dropped. -/
def fraction (cs : List Char) : Option (Nat × List Char) :=
  match cs with
  | c :: rest =>
    let digits := rest.takeWhile Text.isAsciiDigit
    if (c == '.' || c == ',') && !digits.isEmpty then
      let kept := digits.take 6
      let value := Text.natOfDigits (kept.filterMap Text.digitValue?)
      some (value * Nat.pow 10 (6 - kept.length), rest.drop digits.length)
    else none
  | [] => none

/-- Reads what may follow the seconds: a fraction, then an offset. -/
def afterSecond (t : RawTime) (cs : List Char) : Result RawTime := do
  match cs with
  | [] => return t
  | c :: _ =>
    if startsOffset c then return { t with offset := some (← offset cs) }
    match fraction cs with
    | none => throw .malformed
    | some (micro, rest) =>
      let t := { t with micro := micro }
      match rest with
      | [] => return t
      | c :: _ =>
        if startsOffset c then return { t with offset := some (← offset rest) }
        throw .malformed

/-- Reads the seconds, behind a colon when the minutes stood behind one. -/
def afterMinute (t : RawTime) (colon : Bool) (cs : List Char) : Result RawTime := do
  match cs with
  | [] => return t
  | c :: rest =>
    if startsOffset c then return { t with offset := some (← offset cs) }
    if colon && c != ':' then throw .malformed
    let body := if colon then rest else cs
    let second ← field (body.take 2)
    afterSecond { t with second := second } (body.drop 2)

/-- Reads the minutes, behind an optional colon. -/
def afterHour (t : RawTime) (cs : List Char) : Result RawTime := do
  match cs with
  | [] => return t
  | c :: rest =>
    if startsOffset c then return { t with offset := some (← offset cs) }
    let colon := c == ':'
    let body := if colon then rest else cs
    let minute ← field (body.take 2)
    afterMinute { t with minute := minute } colon (body.drop 2)

/-- Reads a time of day; an offset may stand in place of any field. -/
def time (cs : List Char) : Result RawTime := do
  if cs.length < 2 then throw .malformed
  match cs with
  | [] => throw .malformed
  | c :: _ =>
    if startsOffset c then return { offset := some (← offset cs) }
    let hour ← field (cs.take 2)
    let t ← afterHour { hour := hour } (cs.drop 2)
    if t.hour == 24 && (t.minute != 0 || t.second != 0 || t.micro != 0) then throw .malformed
    return t

/-- Checks the fields; hour 24 is midnight of the next day. -/
def build (d : RawDate) (t : RawTime) : Result DateTime := do
  let (year, month, day) := d
  let midnight := t.hour == 24
  let date : Date := ⟨← natural year, ← natural month, ← natural day⟩
  let hour ← natural (if midnight then 0 else t.hour)
  let whole : DateTime :=
    ⟨date, hour, ← natural t.minute, ← natural t.second, t.micro, t.offset⟩
  if !whole.isValid then throw .malformed
  if midnight then
    match Date.ofNumber? (date.number + 1) with
    | some next => return { whole with date := next }
    | none => throw .outOfRange
  return whole

/-- Reads an ISO 8601 text.  Only ASCII is accepted; any one character separates date and time. -/
def read (s : String) : Result DateTime := do
  let cs := s.toList
  if cs.any fun c => 0x80 ≤ c.toNat then throw .malformed
  let (d, rest) ← date cs
  match rest with
  | [] => build d {}
  | _ :: clock => build d (← time clock)

end Bazaar.Calendar.Iso
