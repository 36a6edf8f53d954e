import Bazaar.Text.Phrase

/-!
# Bytes as text

UTF-8 in both directions, and the wider Unicode encodings for reading.  Reading is strict, with an
error that names the first malformed bytes, or lenient, with a replacement character for each
malformed group of bytes.
-/

namespace Bazaar.Text

/-- What is wrong with a group of bytes. -/
inductive ByteFault where
  | invalidStart
  | invalidContinuation
  | unexpectedEnd
  | truncatedUnit
  | outOfRange
  deriving DecidableEq, Repr

/-- The wording of a fault. -/
def ByteFault.message : ByteFault → String
  | .invalidStart => "invalid start byte"
  | .invalidContinuation => "invalid continuation byte"
  | .unexpectedEnd => "unexpected end of data"
  | .truncatedUnit => "truncated data"
  | .outOfRange => "code point not in range(0x110000)"

/-- A group of bytes that is no text: where it starts, its first byte and its length. -/
structure DecodeError where
  encoding : String
  position : Nat
  byte : UInt8
  length : Nat
  fault : ByteFault
  deriving DecidableEq, Repr

/-- The wording of a decoding error; a single byte is shown, a group is given by its ends. -/
def DecodeError.message (e : DecodeError) : String :=
  let place :=
    if e.length == 1 then
      "byte 0x" ++ String.ofList (paddedHex 2 e.byte.toNat) ++ " in position " ++
        toString e.position
    else
      "bytes in position " ++ toString e.position ++ "-" ++ toString (e.position + e.length - 1)
  "'" ++ e.encoding ++ "' codec can't decode " ++ place ++ ": " ++ e.fault.message

/-- The character that stands for malformed bytes. -/
def replacementChar : Char := Char.ofNat 0xFFFD

/-- The character of a code point; a surrogate becomes the replacement character. -/
def charOfCode (n : Nat) : Char :=
  if n < 0xD800 || (0xDFFF < n && n < 0x110000) then Char.ofNat n else replacementChar

/-- The UTF-8 bytes of a character. -/
def utf8Char (c : Char) : List UInt8 :=
  let n := c.toNat
  if n < 0x80 then [UInt8.ofNat n]
  else if n < 0x800 then [UInt8.ofNat (0xC0 + n / 64), UInt8.ofNat (0x80 + n % 64)]
  else if n < 0x10000 then
    [UInt8.ofNat (0xE0 + n / 4096), UInt8.ofNat (0x80 + n / 64 % 64), UInt8.ofNat (0x80 + n % 64)]
  else
    [UInt8.ofNat (0xF0 + n / 262144), UInt8.ofNat (0x80 + n / 4096 % 64),
      UInt8.ofNat (0x80 + n / 64 % 64), UInt8.ofNat (0x80 + n % 64)]

/-- The UTF-8 bytes of a list of characters. -/
def utf8 (cs : List Char) : List UInt8 :=
  cs.flatMap utf8Char

/-- Whether a byte continues a character. -/
def isContinuation (b : UInt8) : Bool :=
  b.toNat / 64 == 2

/-- Whether a second byte may follow the first byte of a longer character: no overlong form, no
surrogate, nothing above the last code point. -/
def secondByteFits (first second : Nat) : Bool :=
  second / 64 == 2 &&
    (if first == 0xE0 then 0xA0 ≤ second
     else if first == 0xED then second < 0xA0
     else if first == 0xF0 then 0x90 ≤ second
     else if first == 0xF4 then second < 0x90
     else true)

/-- Reads the character or the malformed group at the front of some bytes, with its length. -/
def utf8Front (first : Nat) (rest : List UInt8) : Nat × Except ByteFault Char :=
  if first < 0x80 then (1, .ok (Char.ofNat first))
  else if first < 0xC2 || 0xF4 < first then (1, .error .invalidStart)
  else
    match rest with
    | [] => (1, .error .unexpectedEnd)
    | b :: rest =>
      let second := b.toNat
      if !secondByteFits first second then (1, .error .invalidContinuation)
      else if first < 0xE0 then (2, .ok (Char.ofNat ((first - 0xC0) * 64 + (second - 0x80))))
      else
        match rest with
        | [] => (2, .error .unexpectedEnd)
        | b :: rest =>
          let third := b.toNat
          if !isContinuation b then (2, .error .invalidContinuation)
          else if first < 0xF0 then
            (3, .ok (Char.ofNat (((first - 0xE0) * 64 + (second - 0x80)) * 64 + (third - 0x80))))
          else
            match rest with
            | [] => (3, .error .unexpectedEnd)
            | b :: _ =>
              if !isContinuation b then (3, .error .invalidContinuation)
              else
                (4, .ok (Char.ofNat
                  ((((first - 0xF0) * 64 + (second - 0x80)) * 64 + (third - 0x80)) * 64 +
                    (b.toNat - 0x80))))

/-- The code point that some bytes start with if it is half of a pair, written as if it were a
character. -/
def halfFront? : List UInt8 → Option Nat
  | a :: b :: c :: _ =>
    if a == 0xED && 0xA0 ≤ b.toNat && isContinuation b && isContinuation c then
      some (0xD000 + (b.toNat - 0x80) * 64 + (c.toNat - 0x80))
    else none
  | _ => none

/-- Strict reading from a position; `skip` bytes at the front belong to the character before.  What
becomes of a character is given, and what becomes of half a pair if it is let pass. -/
def decodeUtf8From (ofChar : Char → σ) (ofHalf? : Nat → Option σ) (position skip : Nat) :
    List UInt8 → Except DecodeError (List σ)
  | [] => .ok []
  | b :: rest =>
    match skip with
    | skip + 1 => decodeUtf8From ofChar ofHalf? (position + 1) skip rest
    | 0 =>
      match utf8Front b.toNat rest with
      | (length, .ok c) =>
        (decodeUtf8From ofChar ofHalf? (position + 1) (length - 1) rest).map (ofChar c :: ·)
      | (length, .error fault) =>
        match (halfFront? (b :: rest)).bind ofHalf? with
        | some s => (decodeUtf8From ofChar ofHalf? (position + 1) 2 rest).map (s :: ·)
        | none => .error ⟨"utf-8", position, b, length, fault⟩

/-- Reads UTF-8 strictly. -/
def decodeUtf8 (bs : List UInt8) : Except DecodeError (List Char) :=
  decodeUtf8From id (fun _ => none) 0 0 bs

/-- Reads UTF-8 in which halves of pairs may stand. -/
def decodeWideUtf8 (bs : List UInt8) : Except DecodeError Phrase :=
  decodeUtf8From .char (fun n => some (.ofCode n)) 0 0 bs

/-- Lenient reading; `skip` bytes at the front are already accounted for. -/
def lenientUtf8From (skip : Nat) : List UInt8 → List Char
  | [] => []
  | b :: rest =>
    match skip with
    | skip + 1 => lenientUtf8From skip rest
    | 0 =>
      match utf8Front b.toNat rest with
      | (length, .ok c) => c :: lenientUtf8From (length - 1) rest
      | (length, .error _) => replacementChar :: lenientUtf8From (length - 1) rest

/-- Reads UTF-8 with a replacement character for each malformed group. -/
def lenientUtf8 (bs : List UInt8) : List Char :=
  lenientUtf8From 0 bs

/-- The order of the bytes of a unit. -/
inductive ByteOrder where
  | little
  | big
  deriving DecidableEq, Repr

/-- The number that two bytes make. -/
def ByteOrder.pair : ByteOrder → UInt8 → UInt8 → Nat
  | .little, a, b => b.toNat * 256 + a.toNat
  | .big, a, b => a.toNat * 256 + b.toNat

/-- The suffix of an encoding's name. -/
def ByteOrder.suffix : ByteOrder → String
  | .little => "-le"
  | .big => "-be"

/-- The 16-bit units of some bytes. -/
def units16 (order : ByteOrder) (position : Nat) : List UInt8 → Except DecodeError (List Nat)
  | [] => .ok []
  | [b] => .error ⟨"utf-16" ++ order.suffix, position, b, 1, .truncatedUnit⟩
  | a :: b :: rest => (units16 order (position + 2) rest).map (order.pair a b :: ·)

/-- The signs of 16-bit units; two matching halves make one character. -/
def signsOfUnits16 : List Nat → Phrase
  | [] => []
  | [u] => [.ofCode u]
  | u :: v :: rest =>
    if 0xD800 ≤ u && u < 0xDC00 && 0xDC00 ≤ v && v < 0xE000 then
      .ofCode (0x10000 + (u - 0xD800) * 1024 + (v - 0xDC00)) :: signsOfUnits16 rest
    else .ofCode u :: signsOfUnits16 (v :: rest)

/-- Reads UTF-16 of a known byte order. -/
def decodeUtf16 (order : ByteOrder) (position : Nat) (bs : List UInt8) :
    Except DecodeError Phrase :=
  (units16 order position bs).map signsOfUnits16

/-- Reads UTF-32 of a known byte order. -/
def decodeUtf32 (order : ByteOrder) (position : Nat) :
    List UInt8 → Except DecodeError Phrase
  | [] => .ok []
  | a :: b :: c :: d :: rest =>
    let (high, low) :=
      match order with
      | .little => (order.pair c d, order.pair a b)
      | .big => (order.pair a b, order.pair c d)
    let n := high * 65536 + low
    if n < 0x110000 then (decodeUtf32 order (position + 4) rest).map (.ofCode n :: ·)
    else .error ⟨"utf-32" ++ order.suffix, position, a, 4, .outOfRange⟩
  | b :: rest => .error ⟨"utf-32" ++ order.suffix, position, b, rest.length + 1, .truncatedUnit⟩

/-- Reads a document that starts with an ASCII character in whichever Unicode encoding its first
bytes show: a byte-order mark decides, else the zero bytes among the first four, else UTF-8. -/
def decodeDocument (bs : List UInt8) : Except DecodeError Phrase :=
  match bs with
  | 0xFF :: 0xFE :: 0x00 :: 0x00 :: rest => decodeUtf32 .little 4 rest
  | 0x00 :: 0x00 :: 0xFE :: 0xFF :: rest => decodeUtf32 .big 4 rest
  | 0xFF :: 0xFE :: rest => decodeUtf16 .little 2 rest
  | 0xFE :: 0xFF :: rest => decodeUtf16 .big 2 rest
  | 0xEF :: 0xBB :: 0xBF :: rest => decodeWideUtf8 rest
  | a :: b :: c :: d :: _ =>
    if a == 0 then if b == 0 then decodeUtf32 .big 0 bs else decodeUtf16 .big 0 bs
    else if b == 0 then
      if c == 0 && d == 0 then decodeUtf32 .little 0 bs else decodeUtf16 .little 0 bs
    else decodeWideUtf8 bs
  | [a, b] =>
    if a == 0 then decodeUtf16 .big 0 bs
    else if b == 0 then decodeUtf16 .little 0 bs
    else decodeWideUtf8 bs
  | _ => decodeWideUtf8 bs

end Bazaar.Text
