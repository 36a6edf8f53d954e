import Bazaar.Failure.Class
import Bazaar.Text.Bytes

/-!
# Codecs

Ways of writing text as bytes, as far as reading goes.
-/

namespace Bazaar.Text

/-- How bytes become text: strictly, where they are text, and leniently, with replacement characters
for what is none, unless they cannot be read at all. -/
structure Codec where
  strict : List UInt8 → Option (List Char)
  lenient : List UInt8 → Except Refusal (List Char)

/-- UTF-8. -/
def Codec.utf8 : Codec where
  strict bytes := (decodeUtf8 bytes).toOption
  lenient bytes := .ok (lenientUtf8 bytes)

/-- ASCII. -/
def Codec.ascii : Codec where
  strict bytes :=
    if bytes.all (·.toNat < 0x80) then some (bytes.map fun b => Char.ofNat b.toNat) else none
  lenient bytes :=
    .ok (bytes.map fun b => if b.toNat < 0x80 then Char.ofNat b.toNat else replacementChar)

end Bazaar.Text
