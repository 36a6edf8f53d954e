/-!
# Binary floating point as exact numbers

A double is not a number, an infinity, or a signed `mantissa · 2 ^ exponent`.  This file reads that
form off the bits and finds the double nearest to a quotient of natural numbers, half to even.
-/

namespace Bazaar.Decimal

/-- What a double stands for. -/
inductive Reading where
  | nan
  | infinite (negative : Bool)
  | finite (negative : Bool) (mantissa : Nat) (exponent : Int)
  deriving DecidableEq, Repr

/-- Reads a double off its bits. -/
def read (x : Float) : Reading :=
  let bits : Nat := x.toBits.toNat
  let negative := bits / Nat.pow 2 63 == 1
  let biased : Nat := bits / Nat.pow 2 52 % 2048
  let fraction : Nat := bits % Nat.pow 2 52
  if biased == 2047 then
    if fraction == 0 then .infinite negative else .nan
  else if biased == 0 then .finite negative fraction (-1074)
  else .finite negative (fraction + Nat.pow 2 52) ((biased : Int) - 1075)

/-- Whether a double is neither infinite nor undefined. -/
def isFinite (x : Float) : Bool :=
  match read x with
  | .finite .. => true
  | _ => false

/-- Positive infinity. -/
def infinity : Float := Float.ofBits 0x7FF0000000000000

/-- The undefined value. -/
def undefined : Float := Float.ofBits 0x7FF8000000000000

/-- A power of two as a quotient: numerator and denominator. -/
def powerOfTwo (exponent : Int) : Nat × Nat :=
  if 0 ≤ exponent then (Nat.pow 2 exponent.toNat, 1) else (1, Nat.pow 2 (-exponent).toNat)

/-- The integer nearest to a quotient; a half goes to the even neighbour. -/
def roundQuotient (num den : Nat) : Nat :=
  let whole := num / den
  let twice := 2 * (num % den)
  if twice < den then whole
  else if den < twice then whole + 1
  else if whole % 2 == 0 then whole else whole + 1

/-- The magnitude bits of the double nearest to a quotient of positive numbers. -/
def nearestBits (num den : Nat) : Nat :=
  let estimate : Int := (num.log2 : Int) - (den.log2 : Int)
  let (up, down) := powerOfTwo estimate
  let top := if num * down < up * den then estimate - 1 else estimate
  let unit := max (top - 52) (-1074)
  let (up, down) := powerOfTwo unit
  let mantissa := roundQuotient (num * down) (den * up)
  let hidden := Nat.pow 2 52
  let bits := if mantissa < hidden then mantissa else (unit + 1074).toNat * hidden + mantissa
  min bits (2047 * hidden)

/-- The double nearest to a signed quotient; a quotient out of range gives an infinity. -/
def nearest (negative : Bool) (num den : Nat) : Float :=
  let magnitude := if num == 0 then 0 else nearestBits num den
  Float.ofBits (UInt64.ofNat (if negative then magnitude + Nat.pow 2 63 else magnitude))

/-- The double nearest to a signed decimal `digits · 10 ^ exponent`, where `count` bounds the
number of digits; decimals far out of range are settled without building the power. -/
def nearestDecimal (negative : Bool) (digits : Nat) (exponent : Int) (count : Nat) : Float :=
  if digits == 0 || exponent + count < -340 then nearest negative 0 1
  else if 340 < exponent then nearest negative (Nat.pow 2 1024) 1
  else if 0 ≤ exponent then nearest negative (digits * Nat.pow 10 exponent.toNat) 1
  else nearest negative digits (Nat.pow 10 (-exponent).toNat)

/-- A finite double as a signed quotient. -/
def quotient (mantissa : Nat) (exponent : Int) : Nat × Nat :=
  let (up, down) := powerOfTwo exponent
  (mantissa * up, down)

/-- The integer part of a finite double, toward zero. -/
def truncate (negative : Bool) (mantissa : Nat) (exponent : Int) : Int :=
  let (num, den) := quotient mantissa exponent
  let whole : Int := (num / den : Nat)
  if negative then -whole else whole

/-- Whether a finite double is an integer. -/
def isWhole (mantissa : Nat) (exponent : Int) : Bool :=
  let (num, den) := quotient mantissa exponent
  num % den == 0

end Bazaar.Decimal
