/-!
# Tables of characters

A charset in which every byte is a character, written as rows of characters.
-/

namespace Bazaar.Text.Charset

/-- A charset in which every byte is a character: its own name, other names, and the characters of
its last bytes in rows.  Each byte before them is the code point of its character. -/
structure Table where
  name : String
  otherNames : List String
  rows : List String

namespace Table

/-- The characters of the last bytes. -/
def characters (t : Table) : Array Char :=
  (t.rows.flatMap String.toList).toArray

/-- The characters of some bytes. -/
def decode (t : Table) (bytes : List UInt8) : List Char :=
  let last := t.characters
  let first := 256 - last.size
  bytes.map fun b =>
    if b.toNat < first then Char.ofNat b.toNat else last.getD (b.toNat - first) ' '

end Table

end Bazaar.Text.Charset
