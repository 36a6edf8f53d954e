import Bazaar.Text.Bytes
import Bazaar.Text.Digit

/-!
# Percent-encoding

A text in which every byte outside the unreserved ASCII characters is written as a percent sign
with two upper-case hexadecimal digits, and the way back.
-/

namespace Bazaar.Percent

/-- ASCII letters, digits and the four marks that are never encoded. -/
def isUnreserved (c : Char) : Bool :=
  c.isAlphanum || c == '_' || c == '.' || c == '-' || c == '~'

/-- An upper-case hexadecimal digit. -/
def hexDigit (n : Nat) : Char :=
  if n < 10 then Char.ofNat (0x30 + n) else Char.ofNat (0x41 + (n - 10))

/-- One byte encoded. -/
def byteChars (b : UInt8) : List Char :=
  ['%', hexDigit (b.toNat / 16), hexDigit (b.toNat % 16)]

/-- One character encoded. -/
def encodeChar (c : Char) : List Char :=
  if isUnreserved c then [c] else (Text.utf8Char c).flatMap byteChars

/-- A text encoded. -/
def encodeChars (cs : List Char) : List Char :=
  cs.flatMap encodeChar

/-- A text encoded. -/
def encode (s : String) : String :=
  String.ofList (encodeChars s.toList)

/-- The bytes that an encoded text stands for; a percent sign without two digits behind it stands
for itself. -/
def bytes : List Char → List UInt8
  | '%' :: a :: b :: rest =>
    match Text.hexValue? a, Text.hexValue? b with
    | some high, some low => UInt8.ofNat (high * 16 + low) :: bytes rest
    | _, _ => 0x25 :: bytes (a :: b :: rest)
  | c :: rest => Text.utf8Char c ++ bytes rest
  | [] => []

/-- A text decoded, with replacement characters for bytes that are no text. -/
def decode (s : String) : String :=
  String.ofList (Text.lenientUtf8 (bytes s.toList))

end Bazaar.Percent
