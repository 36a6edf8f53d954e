import Bazaar.Decimal.Binary
import Bazaar.Text.Digit

/-!
# Decimals with a fixed number of places

The exact binary value rounded to a number of decimal places, a half going to the even neighbour,
with or without commas between groups of three digits.
-/

namespace Bazaar.Decimal

/-- Puts a comma after every third digit that another one follows. -/
def groupFromFront : List Char → List Char
  | a :: b :: c :: d :: rest => a :: b :: c :: ',' :: groupFromFront (d :: rest)
  | digits => digits

/-- Puts commas between groups of three digits, counted from the last digit. -/
def groupThousands (digits : List Char) : List Char :=
  (groupFromFront digits.reverse).reverse

/-- A double with a fixed number of places, `grouped` by thousands or not. -/
def fixed (places : Nat) (grouped : Bool) (x : Float) : String :=
  match read x with
  | .nan => "nan"
  | .infinite negative => if negative then "-inf" else "inf"
  | .finite negative mantissa exponent =>
    let (num, den) := quotient mantissa exponent
    let unit := Nat.pow 10 places
    let scaled := roundQuotient (num * unit) den
    let whole := Text.digitsInBase 10 (scaled / unit)
    let fraction := Text.padZeros places (Text.digitsInBase 10 (scaled % unit))
    String.ofList ((if negative then ['-'] else []) ++
      (if grouped then groupThousands whole else whole) ++
      (if places == 0 then [] else '.' :: fraction))

end Bazaar.Decimal
