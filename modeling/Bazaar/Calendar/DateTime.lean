import Bazaar.Calendar.Civil

/-!
# Dates with a time of day

A time of day to the microsecond on a date, with a distance from universal time or without one,
and its ISO 8601 text.
-/

namespace Bazaar.Calendar

/-- A date, a time of day and the minutes east of universal time, if known. -/
structure DateTime where
  date : Date
  hour : Nat
  minute : Nat
  second : Nat
  micro : Nat
  offset : Option Int
  deriving DecidableEq, Repr, Inhabited

namespace DateTime

/-- Whether the date is valid and the time lies within a day. -/
def isValid (t : DateTime) : Bool :=
  t.date.isValid && t.hour < 24 && t.minute < 60 && t.second < 60 && t.micro < 1000000

/-- The microseconds from midnight at the start of the day zero, in universal time if the offset is
known. -/
def micros (t : DateTime) : Int :=
  let minutes : Int := t.date.number * 1440 + t.hour * 60 + t.minute - t.offset.getD 0
  (minutes * 60 + t.second) * 1000000 + t.micro

/-- Whether two times are one: the same instant, or the same fields when neither offset is
known. -/
def same (t u : DateTime) : Bool :=
  t.offset.isSome == u.offset.isSome && t.micros == u.micros

/-- An offset from universal time: sign, hours and minutes. -/
def offsetText (minutes : Int) : String :=
  let n := minutes.natAbs
  (if minutes < 0 then "-" else "+") ++ Text.paddedNat 2 (n / 60) ++ ":" ++
    Text.paddedNat 2 (n % 60)

/-- The time of day; a fraction is written with six digits, a zero fraction not at all. -/
def clock (t : DateTime) : String :=
  Text.paddedNat 2 t.hour ++ ":" ++ Text.paddedNat 2 t.minute ++ ":" ++
    Text.paddedNat 2 t.second ++ (if t.micro == 0 then "" else "." ++ Text.paddedNat 6 t.micro)

/-- Date and time with a chosen character between them. -/
def textWith (separator : String) (t : DateTime) : String :=
  t.date.iso ++ separator ++ t.clock ++ (t.offset.map offsetText).getD ""

/-- The ISO 8601 text. -/
def iso (t : DateTime) : String :=
  t.textWith "T"

end DateTime

end Bazaar.Calendar
