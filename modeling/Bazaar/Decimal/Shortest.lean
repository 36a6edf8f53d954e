import Bazaar.Decimal.Binary
import Bazaar.Text.Digit

/-!
# The shortest decimal that reads back

Among all decimals that round to a given double, those with the fewest digits are kept, and of
these the one nearest to the double.  The text is positional when the first digit stands from the
fourth place after the point up to the sixteenth before it, and has an exponent otherwise.
-/

namespace Bazaar.Decimal

/-- The decimal exponent of the first digit of a positive quotient. -/
def firstDigitPlace (num den : Nat) : Int :=
  if den ≤ num then ((Text.digitsInBase 10 (num / den)).length : Int) - 1
  else -((Text.digitsInBase 10 ((den - 1) / num)).length : Int)

/-- The ends of the interval that rounds to `mantissa · 2 ^ exponent`, in quarters of the last
binary place.  Below a power of two the neighbour is half as far. -/
def roundingInterval (mantissa : Nat) (exponent : Int) : Nat × Nat :=
  let low :=
    if mantissa == Nat.pow 2 52 && -1074 < exponent then 4 * mantissa - 1 else 4 * mantissa - 2
  (low, 4 * mantissa + 2)

/-- A power of ten as a quotient: numerator and denominator. -/
def powerOfTen (exponent : Int) : Nat × Nat :=
  if 0 ≤ exponent then (Nat.pow 10 exponent.toNat, 1) else (1, Nat.pow 10 (-exponent).toNat)

/-- The multiple of a power of ten that lies nearest to a double, if a neighbour of the double on
that grid reads back as it. -/
def onGrid? (m : Nat) (exponent place : Int) : Option Nat :=
  let (low, high) := roundingInterval m exponent
  let (up2, down2) := powerOfTwo (exponent - 2)
  let (up10, down10) := powerOfTen place
  -- A grid point `k` is compared with a quarter count `t` as `k · right` with `t · left`.
  let left := up2 * down10
  let right := up10 * down2
  let reads (k : Nat) : Bool :=
    if m % 2 == 0 then low * left ≤ k * right && k * right ≤ high * left
    else low * left < k * right && k * right < high * left
  let value := 4 * m * left
  let below := value / right
  let above := below + 1
  let lowFits := 0 < below && reads below
  let highFits := reads above
  if lowFits && highFits then
    let toBelow := value - below * right
    let toAbove := above * right - value
    if toBelow < toAbove then some below
    else if toAbove < toBelow then some above
    else if below % 2 == 0 then some below else some above
  else if lowFits then some below
  else if highFits then some above
  else none

/-- Searches grids of more and more digits; the seventeenth always holds a decimal that reads
back. -/
def searchDigits (mantissa : Nat) (exponent first : Int) : Nat → Nat → Nat × Int
  | 0, _ => (0, 0)
  | fuel + 1, count =>
    let place := first - (count : Int) + 1
    match onGrid? mantissa exponent place with
    | some digits => (digits, place)
    | none => searchDigits mantissa exponent first fuel (count + 1)

/-- Moves trailing zeros of the digits into the exponent. -/
def dropZeros : Nat → Nat → Int → Nat × Int
  | 0, digits, place => (digits, place)
  | fuel + 1, digits, place =>
    if 0 < digits && digits % 10 == 0 then dropZeros fuel (digits / 10) (place + 1)
    else (digits, place)

/-- The shortest digits of a positive double and the decimal place of the last one. -/
def shortest (mantissa : Nat) (exponent : Int) : Nat × Int :=
  let (num, den) := quotient mantissa exponent
  let (digits, place) := searchDigits mantissa exponent (firstDigitPlace num den) 18 1
  dropZeros 20 digits place

/-- Digits with a point behind the first `before`, where `before` may lie outside the digits. -/
def positional (digits : List Char) (before : Int) : List Char :=
  if before ≤ 0 then '0' :: '.' :: List.replicate (-before).toNat '0' ++ digits
  else if (digits.length : Int) ≤ before then
    digits ++ List.replicate (before.toNat - digits.length) '0' ++ ['.', '0']
  else digits.take before.toNat ++ '.' :: digits.drop before.toNat

/-- Digits in scientific form; the exponent has a sign and at least two digits. -/
def scientific (digits : List Char) (exponent : Int) : List Char :=
  let mantissa :=
    match digits with
    | [] => []
    | [d] => [d]
    | d :: rest => d :: '.' :: rest
  let sign := if exponent < 0 then '-' else '+'
  mantissa ++ 'e' :: sign :: Text.padZeros 2 (Text.digitsInBase 10 exponent.natAbs)

/-- A positive double or zero as text. -/
def magnitudeText (mantissa : Nat) (exponent : Int) : List Char :=
  if mantissa == 0 then ['0', '.', '0']
  else
    let (number, place) := shortest mantissa exponent
    let digits := Text.digitsInBase 10 number
    let before := place + digits.length
    if -4 < before && before ≤ 16 then positional digits before
    else scientific digits (before - 1)

/-- A double as the shortest text that reads back as it. -/
def text (x : Float) : String :=
  match read x with
  | .nan => "nan"
  | .infinite negative => if negative then "-inf" else "inf"
  | .finite negative mantissa exponent =>
    String.ofList ((if negative then ['-'] else []) ++ magnitudeText mantissa exponent)

end Bazaar.Decimal
