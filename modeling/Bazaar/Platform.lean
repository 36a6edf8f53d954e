import Bazaar.Number
import Bazaar.Text.Codec

/-!
# The platform

What the machinery below everything allows.  Integers are written and read in base ten only up to
some number of digits, unless that limit is switched off.  What lies within each other is taken
apart only as far as the stack reaches.  The codecs of texts go by names.  All these differ from
platform to platform, so everything holds for each of them.
-/

namespace Bazaar

/-- What the platform allows. -/
class Platform where
  /-- The most digits of an integer that is written or read in base ten; there may be no such limit,
  and none is below 640. -/
  digitLimit : Option {limit : Nat // 640 ≤ limit}
  /-- How many arrays and objects may lie within each other in a JSON document that is read. -/
  jsonLevels : Nat
  /-- How many collections may lie within each other in a YAML document that is read. -/
  yamlLevels : Nat
  /-- How many arrays and objects may lie within each other in a value that a report shows; there is
  no such limit where reports of this kind are not made. -/
  shownLevels : Option Nat
  /-- How many arrays and objects may lie within each other in a hit that a document takes up. -/
  takenLevels : Nat
  /-- How many arrays and objects may lie within each other in a document that is printed. -/
  printedLevels : Nat
  /-- The codec of a name; a name may have none, or be refused. -/
  codec : String → Except Refusal (Option Text.Codec)

/-- What may be wrong with a number: it is out of range, or it is too long to be written or read. -/
inductive NumberFault where
  | overflow (o : Overflow)
  | writing (limit : Nat)
  | reading (limit digits : Nat)
  deriving DecidableEq, Repr

/-- The wording of a fault. -/
def NumberFault.message : NumberFault → String
  | .overflow o => o.message
  | .writing limit =>
    "Exceeds the limit (" ++ toString limit ++ " digits) for integer string conversion; " ++
      "use sys.set_int_max_str_digits() to increase the limit"
  | .reading limit digits =>
    "Exceeds the limit (" ++ toString limit ++ " digits) for integer string conversion: " ++
      "value has " ++ toString digits ++ " digits; " ++
      "use sys.set_int_max_str_digits() to increase the limit"

namespace Platform

variable [Platform]

/-- Whether an integer may have so many digits. -/
def Allows (digits : Nat) : Prop :=
  ∀ limit ∈ digitLimit, digits ≤ limit.val

instance (digits : Nat) : Decidable (Allows digits) :=
  inferInstanceAs (Decidable (∀ limit ∈ digitLimit, digits ≤ limit.val))

/-- Checks that an integer may have so many digits; the fault names the limit. -/
def check (digits : Nat) (fault : Nat → NumberFault) : Except NumberFault Unit :=
  match digitLimit with
  | some limit => if digits ≤ limit.val then .ok () else .error (fault limit.val)
  | none => .ok ()

/-- Checks that an integer of so many digits is written. -/
def checkWriting (digits : Nat) : Except NumberFault Unit :=
  check digits .writing

/-- Checks that an integer of so many digits is read. -/
def checkReading (digits : Nat) : Except NumberFault Unit :=
  check digits (.reading · digits)

/-- How many digits an integer has. -/
def digitCount (n : Int) : Nat :=
  (Nat.toDigits 10 n.natAbs).length

/-- An integer in base ten. -/
def write (n : Int) : Except NumberFault String := do
  checkWriting (digitCount n)
  return toString n

end Platform

end Bazaar
