import Bazaar.Text.Bytes

/-!
# Unicode of wide units, read leniently

Texts of two or four bytes a unit.  What is no character becomes a replacement character, so every
row of bytes can be read once the order of its bytes is known; a mark at its front may show it.
-/

namespace Bazaar.Text

/-- Whether a unit is the first of two that make one character. -/
def isHighSurrogate (u : Nat) : Bool :=
  0xD800 ≤ u && u < 0xDC00

/-- Whether a unit is the second of two that make one character. -/
def isLowSurrogate (u : Nat) : Bool :=
  0xDC00 ≤ u && u < 0xE000

/-- Reads units of two bytes.  A unit without its partner is replaced, and so is what is left at
the end. -/
def lenientUtf16 (order : ByteOrder) : List UInt8 → List Char
  | [] => []
  | [_] => [replacementChar]
  | a :: b :: rest =>
    let u := order.pair a b
    if isHighSurrogate u then
      match rest with
      | c :: d :: rest' =>
        let v := order.pair c d
        if isLowSurrogate v then
          charOfCode (0x10000 + (u - 0xD800) * 1024 + (v - 0xDC00)) :: lenientUtf16 order rest'
        else replacementChar :: lenientUtf16 order (c :: d :: rest')
      | _ => [replacementChar]
    else charOfCode u :: lenientUtf16 order rest

/-- Reads units of four bytes.  A unit that is no code point is replaced, and so is what is left at
the end. -/
def lenientUtf32 (order : ByteOrder) : List UInt8 → List Char
  | [] => []
  | a :: b :: c :: d :: rest =>
    let n :=
      match order with
      | .little => order.pair c d * 65536 + order.pair a b
      | .big => order.pair a b * 65536 + order.pair c d
    charOfCode n :: lenientUtf32 order rest
  | _ => [replacementChar]

/-- The order of the bytes of two-byte units that a mark at the front shows, and what follows it. -/
def markedUtf16? : List UInt8 → Option (ByteOrder × List UInt8)
  | 0xFF :: 0xFE :: rest => some (.little, rest)
  | 0xFE :: 0xFF :: rest => some (.big, rest)
  | _ => none

/-- The order of the bytes of four-byte units that a mark at the front shows, and what follows
it. -/
def markedUtf32? : List UInt8 → Option (ByteOrder × List UInt8)
  | 0xFF :: 0xFE :: 0x00 :: 0x00 :: rest => some (.little, rest)
  | 0x00 :: 0x00 :: 0xFE :: 0xFF :: rest => some (.big, rest)
  | _ => none

/-- The mark at the front of UTF-8. -/
def utf8Mark : List UInt8 := [0xEF, 0xBB, 0xBF]

/-- Reads UTF-8 without the mark at its front; a mark that has only begun is passed by too. -/
def lenientMarkedUtf8 (bytes : List UInt8) : List Char :=
  if bytes.length < utf8Mark.length && bytes.isPrefixOf utf8Mark then []
  else if utf8Mark.isPrefixOf bytes then lenientUtf8 (bytes.drop utf8Mark.length)
  else lenientUtf8 bytes

end Bazaar.Text
