import Bazaar.Calendar.Epoch
import Bazaar.Calendar.Iso
import Bazaar.Json.Basic
import Bazaar.Text.Blank

/-!
# Timestamps in records

A record gives a time as an object with seconds and nanoseconds, as seconds or milliseconds since
1970, or as ISO 8601 text.  A value that is none of these is no time at all.
-/

namespace Bazaar.Timestamp

/-- Numbers above this count milliseconds. -/
def secondsLimit : Number := .int 100000000000

/-- The number of a value that is an integer or a double. -/
def number? : Json → Option Number
  | .int n => some (.int n)
  | .float x => some (.float x)
  | _ => none

/-- The value of the first of two names that an object has. -/
def firstOf (members : Members) (name other : Phrase) : Option Json :=
  members.get? name <|> members.get? other

/-- The time of an object with seconds and perhaps nanoseconds. -/
def ofObject (members : Members) : Except Overflow (Option Calendar.DateTime) :=
  match (firstOf members "_seconds" "seconds").bind number? with
  | none => .ok none
  | some seconds => do
    let nanos := ((firstOf members "_nanoseconds" "nanoseconds").bind number?).getD (.int 0)
    let fraction := (← nanos.toFloat) / 1e9
    return Calendar.ofEpoch? (.float ((← seconds.toFloat) + fraction))

/-- The time of a number of seconds or, if it is large, of milliseconds. -/
def ofNumber (n : Number) : Except Overflow (Option Calendar.DateTime) :=
  if secondsLimit.below n then
    match n with
    | .int n => do return Calendar.ofEpoch? (.float (← Number.divideInt n 1000))
    | .float x => .ok (Calendar.ofEpoch? (.float (x / 1000)))
  else .ok (Calendar.ofEpoch? n)

/-- The time of a text; a text without an offset is in universal time. -/
def ofText (s : String) : Except Overflow (Option Calendar.DateTime) :=
  let body := Text.trim s
  if body.isEmpty then .ok none
  else
    match Calendar.Iso.read body with
    | .ok t => .ok (some { t with offset := some (t.offset.getD 0) })
    | .error .malformed => .ok none
    | .error .outOfRange => .error .date

/-- The time of a phrase; one with halves of characters is none. -/
def ofPhrase (p : Phrase) : Except Overflow (Option Calendar.DateTime) :=
  match p.string? with
  | some s => ofText s
  | none => .ok none

/-- The time that a value stands for. -/
def read (v : Json) : Except Overflow (Option Calendar.DateTime) :=
  match v with
  | .obj members => ofObject members
  | .int n => ofNumber (.int n)
  | .float x => ofNumber (.float x)
  | .str s => ofPhrase s
  | _ => .ok none

end Bazaar.Timestamp
