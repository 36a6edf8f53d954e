import Bazaar.Platform
import Bazaar.Text.Quoted

/-!
# Faults of a YAML text

A text is malformed, or a scalar in it spells nothing of the kind that it has to be, or nests too
deep.
-/

namespace Bazaar.Yaml

/-- Why a text gives no value. -/
inductive Fault where
  | malformed
  /-- An escape names a code point that does not exist, perhaps beyond a machine integer. -/
  | noCodePoint (huge : Bool)
  | notInteger (base : Nat) (text : String)
  | number (fault : NumberFault)
  | notDecimal (text : String)
  | notFlag (text : String)
  /-- A number without any character, a sign apart. -/
  | blankNumber
  /-- A decimal of base sixty with too many places. -/
  | tooLarge
  | notTime
  /-- A mapping where the text of a time has to be. -/
  | timeOfMapping
  | year (n : Nat)
  | month
  | day
  | hour
  | minute
  | second
  /-- A distance from universal time, in minutes, of a day or more. -/
  | zone (minutes : Int)
  | tooDeep
  deriving DecidableEq, Repr

/-- A span of minutes in messages: whole days, and the seconds beyond them. -/
def shownSpan (minutes : Int) : String :=
  let seconds := minutes % 1440 * 60
  "datetime.timedelta(days=" ++ toString (minutes / 1440) ++
    (if seconds == 0 then "" else ", seconds=" ++ toString seconds) ++ ")"

/-- The wording of a fault. -/
def Fault.message : Fault → String
  | .malformed => "malformed document"
  | .noCodePoint false => "chr() arg not in range(0x110000)"
  | .noCodePoint true => "Python int too large to convert to C int"
  | .notInteger base text =>
    "invalid literal for int() with base " ++ toString base ++ ": " ++
      String.ofList ((Text.quoted text).toList.take 200)
  | .number fault => fault.message
  | .notDecimal text => "could not convert string to float: " ++ Text.quoted text
  | .notFlag text => Text.quoted text
  | .blankNumber => "string index out of range"
  | .tooLarge => "int too large to convert to float"
  | .notTime => "'NoneType' object has no attribute 'groupdict'"
  | .timeOfMapping => "expected string or bytes-like object, got 'list'"
  | .year n => "year " ++ toString n ++ " is out of range"
  | .month => "month must be in 1..12"
  | .day => "day is out of range for month"
  | .hour => "hour must be in 0..23"
  | .minute => "minute must be in 0..59"
  | .second => "second must be in 0..59"
  | .zone minutes =>
    "offset must be a timedelta strictly between -timedelta(hours=24) and " ++
      "timedelta(hours=24), not " ++ shownSpan minutes ++ "."
  | .tooDeep => "maximum recursion depth exceeded"

/-- The class of a fault. -/
def Fault.kind : Fault → FaultClass
  | .malformed => .markup
  | .noCodePoint true | .tooLarge => .overflow
  | .notFlag _ => .key
  | .blankNumber => .index
  | .notTime => .attribute
  | .timeOfMapping => .type
  | .tooDeep => .recursion
  | _ => .value

/-- Reading a text or a part of it. -/
abbrev Result (α : Type) := Except Fault α

end Bazaar.Yaml
