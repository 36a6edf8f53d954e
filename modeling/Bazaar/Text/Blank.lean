/-!
# Blank characters

The characters that count as white space at the ends of a text, and the trimming of a text on
both sides.  Besides the ASCII blanks these are the four information separators, the next-line
control and every Unicode space separator.
-/

namespace Bazaar.Text

/-- White space in the widest sense: ASCII blanks and separators, and the Unicode spaces. -/
def isBlank (c : Char) : Bool :=
  let n := c.toNat
  (0x09 ≤ n && n ≤ 0x0D) || (0x1C ≤ n && n ≤ 0x20) || n == 0x85 || n == 0xA0 || n == 0x1680 ||
  (0x2000 ≤ n && n ≤ 0x200A) || n == 0x2028 || n == 0x2029 || n == 0x202F || n == 0x205F ||
  n == 0x3000

/-- A blank that may stand around a number: the information separators may not. -/
def isBlankByNumber (c : Char) : Bool :=
  isBlank c && !(0x1C ≤ c.toNat && c.toNat ≤ 0x1F)

/-- Characters, or other items, without those of a class at either end. -/
def stripChars (p : α → Bool) (cs : List α) : List α :=
  ((cs.dropWhile p).reverse.dropWhile p).reverse

/-- Characters without the blanks at either end. -/
def trimChars (cs : List Char) : List Char :=
  stripChars isBlank cs

/-- Text without the blanks at either end. -/
def trim (s : String) : String :=
  String.ofList (trimChars s.toList)

/-- Text without the blanks behind. -/
def trimRight (s : String) : String :=
  String.ofList (s.toList.reverse.dropWhile isBlank).reverse

end Bazaar.Text
