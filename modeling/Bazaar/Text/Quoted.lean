import Bazaar.Text.Digit
import Bazaar.Text.Printable

/-!
# Quoted text

The form in which messages show a text: between single quotes, or between double quotes when the
text holds a single quote and no double one.  The quote, the backslash and unprintable characters
are escaped.
-/

namespace Bazaar.Text

/-- A number in lower-case hexadecimal with at least a given number of digits. -/
def paddedHex (width n : Nat) : List Char :=
  padZeros width (digitsInBase 16 n)

/-- The number of a character behind a mark that says how many digits it has. -/
def escapedChar (c : Char) : List Char :=
  let n := c.toNat
  if n < 0x100 then '\\' :: 'x' :: paddedHex 2 n
  else if n < 0x10000 then '\\' :: 'u' :: paddedHex 4 n
  else '\\' :: 'U' :: paddedHex 8 n

/-- One character inside quotes. -/
def quotedChar (quote c : Char) : List Char :=
  if c == quote || c == '\\' then ['\\', c]
  else if c == '\t' then ['\\', 't']
  else if c == '\n' then ['\\', 'n']
  else if c == '\r' then ['\\', 'r']
  else if isPrintable c then [c]
  else escapedChar c

/-- The quote that a text is shown between. -/
def chooseQuote (cs : List Char) : Char :=
  if cs.contains '\'' && !cs.contains '"' then '"' else '\''

/-- A text as messages show it, quotes included. -/
def quoted (s : String) : String :=
  let cs := s.toList
  let quote := chooseQuote cs
  String.ofList (quote :: cs.flatMap (quotedChar quote) ++ [quote])

/-- One byte inside quotes: ASCII as it is, all else as two hexadecimal digits. -/
def quotedByte (quote : Char) (b : UInt8) : List Char :=
  if b.toNat < 0x80 then quotedChar quote (Char.ofNat b.toNat)
  else '\\' :: 'x' :: paddedHex 2 b.toNat

/-- A byte string as messages show it. -/
def quotedBytes (bs : List UInt8) : String :=
  let quote := chooseQuote (bs.map fun b => Char.ofNat b.toNat)
  String.ofList ('b' :: quote :: bs.flatMap (quotedByte quote) ++ [quote])

/-- The wording for characters in a row that an encoding does not have; a single one is shown, a run
is given by its ends. -/
def unencodable (encoding : String) (shown : List Char) (position length : Nat)
    (reason : String) : String :=
  let place :=
    if length == 1 then
      "character '" ++ String.ofList shown ++ "' in position " ++ toString position
    else
      "characters in position " ++ toString position ++ "-" ++ toString (position + length - 1)
  "'" ++ encoding ++ "' codec can't encode " ++ place ++ ": " ++ reason

end Bazaar.Text
