import Bazaar.Decimal.Reading
import Bazaar.Text.Base64
import Bazaar.Text.Case
import Bazaar.Value.Basic
import Bazaar.Yaml.Fault
import Bazaar.Yaml.Plain

/-!
# Values of scalars

The value that a text has under a tag.  A tag may be given to any text, so the text need not have
the form by which a plain word of that kind is recognised.
-/

namespace Bazaar.Yaml

/-- The characters of a number; underscores are left out. -/
def numeral (s : String) : List Char :=
  s.toList.filter (· != '_')

section Integers

variable [Platform]

/-- The integer that a text spells in a base; only in base ten it may be too long. -/
def integerInBase (base : Nat) (cs : List Char) : Result Int :=
  match Text.intInBase? base cs with
  | none => .error (.notInteger base (String.ofList cs))
  | some n =>
    if base == 10 then
      let digits := (cs.filterMap Text.digitValue?).length
      ((Platform.checkReading digits).mapError .number).map fun _ => n
    else .ok n

/-- The integer that a text spells behind a sign. -/
def integerBody (cs : List Char) : Result Int :=
  match cs with
  | [] => .error .blankNumber
  | ['0'] => .ok 0
  | '0' :: 'b' :: rest => integerInBase 2 rest
  | '0' :: 'x' :: rest => integerInBase 16 rest
  | '0' :: _ => integerInBase 8 cs
  | _ => do
    let digits ← (Plain.colonParts cs).mapM (integerInBase 10)
    return digits.foldl (fun n d => 60 * n + d) 0

/-- The integer that a text spells. -/
def integerValue (s : String) : Result Int := do
  let (negative, body) := Text.splitSign (numeral s)
  let n ← integerBody body
  return if negative then -n else n

end Integers

/-- The decimal that a text spells by itself. -/
def decimalPart (cs : List Char) : Result Float :=
  let s := String.ofList cs
  match Decimal.ofText? s with
  | some x => .ok x
  | none => .error (.notDecimal s)

/-- A decimal of base sixty from its parts, the last one first, given what the parts behind them
come to and the worth of the first. -/
def sexagesimalFrom (sum : Float) (worth : Int) : List Float → Result Float
  | [] => .ok sum
  | part :: rest => do
    let scale ← (Number.floatOfInt worth).mapError fun _ => .tooLarge
    sexagesimalFrom (sum + part * scale) (worth * 60) rest

/-- The decimal that a text spells behind a sign. -/
def decimalBody (cs : List Char) : Result Float := do
  if cs.contains ':' then
    let parts ← (Plain.colonParts cs).mapM decimalPart
    sexagesimalFrom 0 1 parts.reverse
  else decimalPart cs

/-- The decimal that a text spells. -/
def decimalValue (s : String) : Result Float := do
  let cs := (Text.lower (String.ofList (numeral s))).toList
  if cs.isEmpty then throw .blankNumber
  let (negative, body) := Text.splitSign cs
  let sign : Float := if negative then -1 else 1
  match String.ofList body with
  | ".inf" => return sign * Decimal.infinity
  | ".nan" => return Decimal.undefined
  | _ => return sign * (← decimalBody body)

/-- The flag that a text names. -/
def flagValue (s : String) : Result Bool :=
  let word := Text.lower s
  match Plain.flags.lookup word with
  | some b => .ok b
  | none => .error (.notFlag word)

/-- The number that digits denote. -/
def digitsNumber (cs : List Char) : Nat :=
  Text.natOfDigits (cs.filterMap Text.digitValue?)

/-- Checks a date. -/
def checkDate (d : Calendar.Date) : Result Unit :=
  if d.year < 1 then .error (.year d.year)
  else if d.month < 1 || 12 < d.month then .error .month
  else if d.day < 1 || Calendar.daysInMonth d.year d.month < d.day then .error .day
  else .ok ()

/-- The date, or date and time, of its parts. -/
def stampValue (s : Plain.Stamp) : Result Value := do
  let date : Calendar.Date :=
    ⟨digitsNumber s.year, digitsNumber s.month, digitsNumber s.day⟩
  match s.clock with
  | none =>
    checkDate date
    return .date date
  | some (hour, minute, second) =>
    let fraction := s.fraction.take 6
    let micro := digitsNumber fraction * Nat.pow 10 (6 - fraction.length)
    let offset :=
      s.zone.map fun (west, hours, minutes) =>
        let total : Int := digitsNumber hours * 60 + digitsNumber minutes
        if west then -total else total
    match offset.filter fun o => 1440 ≤ o.natAbs with
    | some o => throw (.zone o)
    | none => pure ()
    checkDate date
    let t : Calendar.DateTime :=
      ⟨date, digitsNumber hour, digitsNumber minute, digitsNumber second, micro, offset⟩
    if 23 < t.hour then throw .hour
    if 59 < t.minute then throw .minute
    if 59 < t.second then throw .second
    return .dateTime t

/-- The bytes that a text of ASCII characters holds. -/
def binaryValue (s : String) : Result (List UInt8) :=
  if s.toList.all fun c => c.toNat < 0x80 then
    match Text.decodeBase64 s.toList with
    | some bytes => .ok bytes
    | none => .error .malformed
  else .error .malformed

/-- The value of a text under a tag. -/
def scalarValue [Platform] (tag : Tag) (s : String) : Result Value :=
  match tag with
  | .null => .ok .null
  | .flag => (flagValue s).map .bool
  | .integer => (integerValue s).map .int
  | .decimal => (decimalValue s).map .float
  | .binary => (binaryValue s).map .bytes
  | .timestamp =>
    match Plain.stamp? s.toList with
    | some stamp => stampValue stamp
    | none => .error .notTime
  | .text => .ok (.str s)
  | _ => .error .malformed

end Bazaar.Yaml
