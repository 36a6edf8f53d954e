import Bazaar.Text.Quoted

/-!
# Text that has to be ASCII

Finds the first run of characters that are not ASCII, and words the error for it.
-/

namespace Bazaar.Text

/-- Whether a character is ASCII. -/
def isAscii (c : Char) : Bool :=
  c.toNat < 0x80

/-- The first characters in a row that are not ASCII, and how many characters come before them. -/
structure AsciiError where
  position : Nat
  run : List Char
  deriving DecidableEq, Repr

/-- What is wrong with characters that are not ASCII. -/
def unfit : String := "ordinal not in range(128)"

/-- The wording of an error. -/
def AsciiError.message (e : AsciiError) : String :=
  unencodable "ascii" (e.run.flatMap escapedChar) e.position e.run.length unfit

/-- What keeps a text from being ASCII. -/
def asciiError (cs : List Char) : AsciiError :=
  ⟨(cs.takeWhile isAscii).length, (cs.dropWhile isAscii).takeWhile (!isAscii ·)⟩

/-- The parts of an error as they are listed, given the whole text. -/
def AsciiError.parts (s : String) (e : AsciiError) : String :=
  "'ascii', " ++ quoted s ++ ", " ++ toString e.position ++ ", " ++
    toString (e.position + e.run.length) ++ ", " ++ quoted unfit

end Bazaar.Text
