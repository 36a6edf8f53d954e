/-!
# Base64

Reads bytes written in the Base64 alphabet.  Characters outside of it are passed by, and padding
that completes a group of four ends the text.
-/

namespace Bazaar.Text

/-- The value of a character of the alphabet. -/
def base64Value? (c : Char) : Option Nat :=
  if 'A' ≤ c && c ≤ 'Z' then some (c.toNat - 0x41)
  else if 'a' ≤ c && c ≤ 'z' then some (c.toNat - 0x61 + 26)
  else if '0' ≤ c && c ≤ '9' then some (c.toNat - 0x30 + 52)
  else if c == '+' then some 62
  else if c == '/' then some 63
  else none

/-- Reads from a place within a group of four, given the bits of the byte that has begun and the
padding seen since the last character of the alphabet. -/
def decodeBase64From (place bits pads : Nat) : List Char → Option (List UInt8)
  | [] => if place == 0 then some [] else none
  | c :: rest =>
    if c == '=' then
      if place < 2 then decodeBase64From place bits pads rest
      else if 3 ≤ place + pads then some []
      else decodeBase64From place bits (pads + 1) rest
    else
      match base64Value? c, place with
      | none, _ => decodeBase64From place bits pads rest
      | some v, 0 => decodeBase64From 1 v 0 rest
      | some v, 1 =>
        (decodeBase64From 2 (v % 16) 0 rest).map (UInt8.ofNat (bits * 4 + v / 16) :: ·)
      | some v, 2 =>
        (decodeBase64From 3 (v % 4) 0 rest).map (UInt8.ofNat (bits * 16 + v / 4) :: ·)
      | some v, _ => (decodeBase64From 0 0 0 rest).map (UInt8.ofNat (bits * 64 + v) :: ·)

/-- The bytes of a text; `none` when the last group is not complete. -/
def decodeBase64 (cs : List Char) : Option (List UInt8) :=
  decodeBase64From 0 0 0 cs

end Bazaar.Text
