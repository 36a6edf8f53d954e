import Bazaar.Calendar.DateTime
import Bazaar.Number

/-!
# Seconds since 1970

Turns a number of seconds since the first of January 1970 into a date in universal time, to the
nearest microsecond.
-/

namespace Bazaar.Calendar

/-- The number of the first of January 1970. -/
def epochDay : Nat := 719163

/-- The date and time of a whole second and a microsecond, if the calendar has it. -/
def ofSeconds? (seconds : Int) (micro : Nat) : Option DateTime :=
  let second := (seconds % 86400).toNat
  (Date.ofNumber? (seconds / 86400 + epochDay)).map fun date =>
    ⟨date, second / 3600, second / 60 % 60, second % 60, micro, some 0⟩

/-- A double rounded to an integer, a half to the even neighbour. -/
def roundFloat (x : Float) : Int :=
  match Decimal.read x with
  | .finite negative mantissa exponent =>
    let (num, den) := Decimal.quotient mantissa exponent
    let n : Int := Decimal.roundQuotient num den
    if negative then -n else n
  | _ => 0

/-- Splits a double into whole seconds and microseconds.  The fraction is scaled in doubles and
then rounded; it counts from the second below. -/
def splitSeconds? (x : Float) : Option (Int × Nat) :=
  match Decimal.read x with
  | .finite negative mantissa exponent =>
    let whole := Decimal.truncate negative mantissa exponent
    let (num, den) := Decimal.quotient mantissa exponent
    let fraction := Decimal.nearest negative (num % den) den
    let micros := roundFloat (fraction * 1e6)
    if 1000000 ≤ micros then some (whole + 1, (micros - 1000000).toNat)
    else if micros < 0 then some (whole - 1, (micros + 1000000).toNat)
    else some (whole, micros.toNat)
  | _ => none

/-- The date and time of a number of seconds since 1970; `none` outside the calendar. -/
def ofEpoch? : Number → Option DateTime
  | .int n => ofSeconds? n 0
  | .float x => (splitSeconds? x).bind fun (seconds, micro) => ofSeconds? seconds micro

end Bazaar.Calendar
