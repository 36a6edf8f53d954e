import Bazaar.Decimal.Shortest

/-!
# Numbers

Configuration and filters hold integers of any size beside doubles.  The two compare exactly.
Arithmetic that mixes them first turns the integer into a double, which fails when the integer is
out of the doubles' range.
-/

namespace Bazaar

/-- An operation whose result is out of range. -/
inductive Overflow where
  | intToFloat
  | quotient
  | date
  deriving DecidableEq, Repr

/-- The wording of an overflow. -/
def Overflow.message : Overflow → String
  | .intToFloat => "int too large to convert to float"
  | .quotient => "integer division result too large for a float"
  | .date => "date value out of range"

/-- An integer or a double. -/
inductive Number where
  | int (n : Int)
  | float (x : Float)

namespace Number

/-- The double nearest to an integer, unless it is out of range. -/
def floatOfInt (n : Int) : Except Overflow Float :=
  let x := Decimal.nearest (n < 0) n.natAbs 1
  if Decimal.isFinite x then .ok x else .error .intToFloat

/-- A number as a double. -/
def toFloat : Number → Except Overflow Float
  | .int n => floatOfInt n
  | .float x => .ok x

/-- Whether a number is finite, asked in the doubles: an integer beyond them is an error. -/
def isFinite (a : Number) : Except Overflow Bool :=
  a.toFloat.map Decimal.isFinite

/-- Whether an integer lies below a double, exactly. -/
def intBelowFloat (n : Int) (x : Float) : Bool :=
  match Decimal.read x with
  | .nan => false
  | .infinite negative => !negative
  | .finite negative mantissa exponent =>
    let (num, den) := Decimal.quotient mantissa exponent
    n * den < (if negative then -(num : Int) else num)

/-- Whether a double lies below an integer, exactly. -/
def floatBelowInt (x : Float) (n : Int) : Bool :=
  match Decimal.read x with
  | .nan => false
  | .infinite negative => negative
  | .finite negative mantissa exponent =>
    let (num, den) := Decimal.quotient mantissa exponent
    (if negative then -(num : Int) else num) < n * den

/-- Whether an integer and a double are the same number. -/
def intEqFloat (n : Int) (x : Float) : Bool :=
  match Decimal.read x with
  | .finite negative mantissa exponent =>
    let (num, den) := Decimal.quotient mantissa exponent
    (if negative then -(num : Int) else num) == n * den
  | _ => false

/-- Exact comparison; nothing is below or above an undefined value. -/
def below : Number → Number → Bool
  | .int a, .int b => a < b
  | .float a, .float b => a < b
  | .int a, .float b => intBelowFloat a b
  | .float a, .int b => floatBelowInt a b

/-- Exact equality of values; an undefined value differs from all. -/
def same : Number → Number → Bool
  | .int a, .int b => a == b
  | .float a, .float b => a == b
  | .int a, .float b => intEqFloat a b
  | .float a, .int b => intEqFloat b a

/-- Whether the first number is at most the second. -/
def atMost (a b : Number) : Bool :=
  a.below b || a.same b

/-- The smaller of two numbers, the first when neither is smaller. -/
def least (a b : Number) : Number :=
  if b.below a then b else a

/-- The larger of two numbers, the first when neither is larger. -/
def greatest (a b : Number) : Number :=
  if a.below b then b else a

/-- The sum; two integers add exactly. -/
def add : Number → Number → Except Overflow Number
  | .int a, .int b => .ok (.int (a + b))
  | a, b => do
    let x ← a.toFloat
    let y ← b.toFloat
    return .float (x + y)

/-- The product; two integers multiply exactly. -/
def mul : Number → Number → Except Overflow Number
  | .int a, .int b => .ok (.int (a * b))
  | a, b => do
    let x ← a.toFloat
    let y ← b.toFloat
    return .float (x * y)

/-- The double nearest to the quotient of two integers, the second one positive. -/
def divideInt (n : Int) (d : Nat) : Except Overflow Float :=
  let x := Decimal.nearest (n < 0) n.natAbs d
  if Decimal.isFinite x then .ok x else .error .quotient

/-- The text of a number. -/
def text : Number → String
  | .int n => toString n
  | .float x => Decimal.text x

end Number

end Bazaar
