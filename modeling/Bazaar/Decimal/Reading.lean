import Bazaar.Decimal.Binary
import Bazaar.Text.Digit

/-!
# Decimals from text

Reads the texts that a person may write for a number: blanks around it, a sign, digits of any
script with single underscores between them, a point, an exponent, or the name of an infinity or of
the undefined value.
-/

namespace Bazaar.Decimal

/-- Takes digits of any script off the front, with single underscores between two of them. -/
def takeDigits : List Char → List Nat × List Char
  | [] => ([], [])
  | c :: rest =>
    match Text.digitValue? c with
    | none => ([], c :: rest)
    | some d =>
      match rest with
      | '_' :: e :: rest' =>
        if Text.isDigit e then
          let (ds, tail) := takeDigits (e :: rest')
          (d :: ds, tail)
        else ([d], rest)
      | rest =>
        let (ds, tail) := takeDigits rest
        (d :: ds, tail)

/-- The exponent part of a decimal: absent, or `e` with an optional sign and digits. -/
def exponent? (cs : List Char) : Option Int :=
  match cs with
  | [] => some 0
  | c :: rest =>
    if c == 'e' || c == 'E' then
      let (negative, rest) := Text.splitSign rest
      match takeDigits rest with
      | ([], _) => none
      | (ds, []) =>
        let n : Int := Text.natOfDigits ds
        some (if negative then -n else n)
      | _ => none
    else none

/-- The fraction part of a decimal: absent, or a point and digits, which may be missing. -/
def fractionDigits : List Char → List Nat × List Char
  | '.' :: rest => takeDigits rest
  | cs => ([], cs)

/-- Reads an unsigned decimal. -/
def unsigned? (negative : Bool) (cs : List Char) : Option Float :=
  let name := cs.map Char.toLower
  if name == "inf".toList || name == "infinity".toList then
    some (if negative then -infinity else infinity)
  else if name == "nan".toList then some undefined
  else
    let (whole, rest) := takeDigits cs
    let (fraction, rest) := fractionDigits rest
    let ds := whole ++ fraction
    if ds.isEmpty then none
    else
      (exponent? rest).map fun e =>
        nearestDecimal negative (Text.natOfDigits ds) (e - fraction.length) ds.length

/-- The double a text spells. -/
def ofText? (s : String) : Option Float :=
  let (negative, body) := Text.splitSign (Text.stripChars Text.isBlankByNumber s.toList)
  unsigned? negative body

end Bazaar.Decimal
