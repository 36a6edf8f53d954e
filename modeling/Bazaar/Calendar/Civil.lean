import Bazaar.Text.Digit

/-!
# The civil calendar

Dates of the proleptic Gregorian calendar in the years 1 to 9999, and their numbering: day 1 is the
first of January of the year 1.
-/

namespace Bazaar.Calendar

/-- A day of a month of a year. -/
structure Date where
  year : Nat
  month : Nat
  day : Nat
  deriving DecidableEq, Repr, Inhabited

/-- Every fourth year is a leap year, except centuries that four hundred does not divide. -/
def isLeap (year : Nat) : Bool :=
  year % 4 == 0 && (year % 100 != 0 || year % 400 == 0)

/-- The number of days in a year. -/
def daysInYear (year : Nat) : Nat :=
  if isLeap year then 366 else 365

/-- The number of days in a month. -/
def daysInMonth (year month : Nat) : Nat :=
  match month with
  | 2 => if isLeap year then 29 else 28
  | 4 | 6 | 9 | 11 => 30
  | _ => 31

/-- The number of days in the first months of a year. -/
def daysBeforeMonth (year : Nat) : Nat → Nat
  | 0 => 0
  | months + 1 =>
    daysBeforeMonth year months + if months = 0 then 0 else daysInMonth year months

/-- The number of days before a year. -/
def daysBeforeYear (year : Nat) : Nat :=
  let past := year - 1
  past * 365 + past / 4 - past / 100 + past / 400

namespace Date

/-- Whether the year is in range and has such a month and day. -/
def isValid (d : Date) : Bool :=
  1 ≤ d.year && d.year ≤ 9999 && 1 ≤ d.month && d.month ≤ 12 && 1 ≤ d.day &&
    d.day ≤ daysInMonth d.year d.month

/-- The number of a day. -/
def number (d : Date) : Nat :=
  daysBeforeYear d.year + daysBeforeMonth d.year d.month + d.day

/-- The number of the last day of the year 9999. -/
def lastNumber : Nat := 3652059

/-- Finds the month of a day of the year, counted from zero. -/
def inYear (year dayOfYear : Nat) : Date :=
  let month := ((List.range 12).filter fun m => daysBeforeMonth year (m + 1) ≤ dayOfYear).length
  ⟨year, month, dayOfYear - daysBeforeMonth year month + 1⟩

/-- The day of a number of at least one. -/
def ofNumber (n : Nat) : Date :=
  let days := n - 1
  -- The mean year is 365.2425 days, so the quotient is the year or a neighbour of it.
  let guess := days * 400 / 146097 + 1
  let year :=
    if daysBeforeYear (guess + 1) ≤ days then guess + 1
    else if daysBeforeYear guess ≤ days then guess
    else guess - 1
  inYear year (days - daysBeforeYear year)

/-- The day of a number, if it is in the years 1 to 9999. -/
def ofNumber? (n : Int) : Option Date :=
  if 1 ≤ n && n ≤ lastNumber then some (ofNumber n.toNat) else none

/-- The day of the week, Monday being 0. -/
def weekday (d : Date) : Nat :=
  (d.number + 6) % 7

/-- The date with dashes; the year has four digits. -/
def iso (d : Date) : String :=
  Text.paddedNat 4 d.year ++ "-" ++ Text.paddedNat 2 d.month ++ "-" ++ Text.paddedNat 2 d.day

/-- The date with dashes; the year has no more digits than it needs. -/
def short (d : Date) : String :=
  toString d.year ++ "-" ++ Text.paddedNat 2 d.month ++ "-" ++ Text.paddedNat 2 d.day

end Date

end Bazaar.Calendar
