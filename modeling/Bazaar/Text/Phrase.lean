import Bazaar.Text.Blank
import Bazaar.Text.Order
import Bazaar.Text.Quoted

/-!
# Phrases

Text as documents may hold it: characters, and halves of pairs of code units that stand alone.  A
phrase can be compared, cut and shown like any text, but it is written as bytes only if it has no
halves.
-/

namespace Bazaar

/-- Half of a pair of code units without the other half. -/
structure Half where
  code : Nat
  isHalf : 0xD800 ≤ code ∧ code < 0xE000
  deriving DecidableEq, Repr

/-- A character, or half of one. -/
inductive Sign where
  | char (c : Char)
  | half (h : Half)
  deriving DecidableEq, Repr

namespace Sign

/-- The sign of a code point. -/
def ofCode (n : Nat) : Sign :=
  if isHalf : 0xD800 ≤ n ∧ n < 0xE000 then .half ⟨n, isHalf⟩ else .char (Char.ofNat n)

/-- The code point of a sign. -/
def code : Sign → Nat
  | .char c => c.toNat
  | .half h => h.code

/-- The character of a sign that is one. -/
def char? : Sign → Option Char
  | .char c => some c
  | .half _ => none

/-- The half of a sign that is one. -/
def half? : Sign → Option Half
  | .char _ => none
  | .half h => some h

/-- Whether a sign is half of a pair. -/
def isHalf (s : Sign) : Bool :=
  s.half?.isSome

/-- Whether a sign is a blank character. -/
def isBlank : Sign → Bool
  | .char c => Text.isBlank c
  | .half _ => false

end Sign

/-- A half as its number behind a mark. -/
def Half.escaped (h : Half) : List Char :=
  '\\' :: 'u' :: Text.paddedHex 4 h.code

/-- Text that may hold halves. -/
abbrev Phrase := List Sign

namespace Phrase

/-- Characters as a phrase. -/
def ofChars (cs : List Char) : Phrase :=
  cs.map .char

/-- A text as a phrase. -/
def ofString (s : String) : Phrase :=
  ofChars s.toList

instance : Coe String Phrase := ⟨ofString⟩

/-- The text of a phrase without halves. -/
def string? (p : Phrase) : Option String :=
  (p.mapM Sign.char?).map String.ofList

/-- A phrase without the blanks at either end. -/
def trim (p : Phrase) : Phrase :=
  Text.stripChars Sign.isBlank p

/-- A phrase in reports, each half by its number. -/
def shown (p : Phrase) : String :=
  String.ofList (p.flatMap fun s =>
    match s with
    | .char c => [c]
    | .half h => h.escaped)

/-- One sign inside quotes. -/
def quotedSign (quote : Char) : Sign → List Char
  | .char c => Text.quotedChar quote c
  | .half h => h.escaped

/-- A phrase as messages show it, quotes included. -/
def quoted (p : Phrase) : String :=
  let quote := Text.chooseQuote (p.filterMap Sign.char?)
  String.ofList (quote :: p.flatMap (quotedSign quote) ++ [quote])

/-- Phrases in the order of their code points. -/
def sorted (phrases : List Phrase) : List Phrase :=
  phrases.mergeSort fun p q => !Text.before Sign.code q p

/-! ## Writing -/

/-- The first halves in a row of a text that is written, and how many signs come before them. -/
structure HalfError where
  position : Nat
  run : List Half
  deriving DecidableEq, Repr

/-- The wording of an error. -/
def HalfError.message (e : HalfError) : String :=
  Text.unencodable "utf-8" (e.run.flatMap Half.escaped) e.position e.run.length
    "surrogates not allowed"

/-- What keeps a phrase from being written. -/
def halfError (p : Phrase) : HalfError :=
  ⟨(p.takeWhile (!·.isHalf)).length, ((p.dropWhile (!·.isHalf)).takeWhile (·.isHalf)).filterMap
    Sign.half?⟩

/-- The text of a phrase that is written. -/
def write (p : Phrase) : Except HalfError String :=
  match p.string? with
  | some s => .ok s
  | none => .error p.halfError

end Phrase

end Bazaar
