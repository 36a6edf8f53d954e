import Bazaar.Text.Blank

/-!
# Decimal digits

The decimal digits of every script.  The digits of one script are ten consecutive code points, so
the table holds the zeros alone.
-/

namespace Bazaar.Text

/-- The code points of the digit zero in each script, ascending. -/
def zeroDigits : List Nat :=
  [0x30, 0x660, 0x6F0, 0x7C0, 0x966, 0x9E6, 0xA66, 0xAE6, 0xB66, 0xBE6, 0xC66, 0xCE6, 0xD66,
   0xDE6, 0xE50, 0xED0, 0xF20, 0x1040, 0x1090, 0x17E0, 0x1810, 0x1946, 0x19D0, 0x1A80, 0x1A90,
   0x1B50, 0x1BB0, 0x1C40, 0x1C50, 0xA620, 0xA8D0, 0xA900, 0xA9D0, 0xA9F0, 0xAA50, 0xABF0, 0xFF10,
   0x104A0, 0x10D30, 0x11066, 0x110F0, 0x11136, 0x111D0, 0x112F0, 0x11450, 0x114D0, 0x11650,
   0x116C0, 0x11730, 0x118E0, 0x11950, 0x11C50, 0x11D50, 0x11DA0, 0x16A60, 0x16AC0, 0x16B50,
   0x1D7CE, 0x1D7D8, 0x1D7E2, 0x1D7EC, 0x1D7F6, 0x1E140, 0x1E2F0, 0x1E950, 0x1FBF0]

/-- The value of a decimal digit of any script. -/
def digitValue? (c : Char) : Option Nat :=
  let n := c.toNat
  if n < 0x80 then
    if 0x30 ≤ n && n ≤ 0x39 then some (n - 0x30) else none
  else
    (zeroDigits.find? fun z => z ≤ n && n < z + 10).map (n - ·)

/-- Whether a character is a decimal digit of some script. -/
def isDigit (c : Char) : Bool :=
  (digitValue? c).isSome

/-- Whether a character is one of the ten ASCII digits. -/
def isAsciiDigit (c : Char) : Bool :=
  '0' ≤ c && c ≤ '9'

/-- The value of a hexadecimal digit of either case. -/
def hexValue? (c : Char) : Option Nat :=
  if '0' ≤ c && c ≤ '9' then some (c.toNat - 0x30)
  else if 'a' ≤ c && c ≤ 'f' then some (c.toNat - 0x61 + 10)
  else if 'A' ≤ c && c ≤ 'F' then some (c.toNat - 0x41 + 10)
  else none

/-- Digits of a number in a base, without leading zeros; zero has one digit. -/
def digitsInBase (base n : Nat) : List Char :=
  Nat.toDigits base n

/-- The digits of a number, filled with zeros on the left up to a width. -/
def padZeros (width : Nat) (ds : List Char) : List Char :=
  List.replicate (width - ds.length) '0' ++ ds

/-- A number in base ten with at least a given number of digits. -/
def paddedNat (width n : Nat) : String :=
  String.ofList (padZeros width (digitsInBase 10 n))

/-- Splits a sign off the front of a text: whether it is a minus, and what follows. -/
def splitSign : List Char → Bool × List Char
  | '-' :: rest => (true, rest)
  | '+' :: rest => (false, rest)
  | cs => (false, cs)

/-- The value of a digit of some base up to sixteen: a decimal digit of any script or a letter. -/
def digitIn? (base : Nat) (c : Char) : Option Nat :=
  ((digitValue? c).orElse fun _ => hexValue? c).filter (· < base)

/-- Digits of a base, with single underscores allowed between two digits. -/
def groupedDigits? (base : Nat) : List Char → Option (List Nat)
  | [] => none
  | c :: rest =>
    match digitIn? base c, rest with
    | none, _ => none
    | some d, [] => some [d]
    | some d, '_' :: rest' => (groupedDigits? base rest').map (d :: ·)
    | some d, rest => (groupedDigits? base rest).map (d :: ·)

/-- The letter behind a zero that may stand before the digits of a base. -/
def isBaseMark (base : Nat) (c : Char) : Bool :=
  match base with
  | 2 => c == 'b' || c == 'B'
  | 8 => c == 'o' || c == 'O'
  | 16 => c == 'x' || c == 'X'
  | _ => false

/-- Digits without the mark of their base; an underscore may follow the mark. -/
def dropBaseMark (base : Nat) (cs : List Char) : List Char :=
  match cs with
  | '0' :: mark :: rest =>
    if isBaseMark base mark then
      match rest with
      | '_' :: rest => rest
      | rest => rest
    else cs
  | cs => cs

/-- The number that a list of digits, most significant first, denotes in a base. -/
def natInBase (base : Nat) (ds : List Nat) : Nat :=
  ds.foldl (fun n d => base * n + d) 0

/-- The integer a text spells in a base: blanks around it, a sign, the mark of the base, digits,
single underscores between digits. -/
def intInBase? (base : Nat) (cs : List Char) : Option Int :=
  let (negative, body) := splitSign (stripChars isBlankByNumber cs)
  (groupedDigits? base (dropBaseMark base body)).map fun ds =>
    if negative then -(natInBase base ds : Int) else natInBase base ds

/-- The number that decimal digits, most significant first, denote. -/
def natOfDigits (ds : List Nat) : Nat :=
  natInBase 10 ds

/-- The integer a text spells in base ten. -/
def int? (cs : List Char) : Option Int :=
  intInBase? 10 cs

end Bazaar.Text
