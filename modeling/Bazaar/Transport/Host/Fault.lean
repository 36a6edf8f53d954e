import Bazaar.Failure.Fault

/-!
# Faults of host names

Why a text is no label of a host name, and why an ASCII name stands for no name.  Positions count
from one.
-/

namespace Bazaar.Host

/-- Why the directions of the characters of a label do not fit together. -/
inductive DirectionFault where
  | start (label : List Char)
  | amongRight (position : Nat)
  | amongLeft (position : Nat)
  | digits
  | ending
  deriving DecidableEq, Repr

/-- The wording of a fault. -/
def DirectionFault.message : DirectionFault → String
  | .start label =>
    "First codepoint in label " ++ Text.quoted (String.ofList label) ++
      " must be directionality L, R or AL"
  | .amongRight position =>
    "Invalid direction for codepoint at position " ++ toString position ++
      " in a right-to-left label"
  | .amongLeft position =>
    "Invalid direction for codepoint at position " ++ toString position ++
      " in a left-to-right label"
  | .digits => "Can not mix numeral types in a right-to-left label"
  | .ending => "Label ends with illegal codepoint directionality"

/-- A character of a label that may not stand where it does. -/
structure Misplaced where
  char : Char
  position : Nat
  label : List Char
  deriving DecidableEq, Repr

namespace Misplaced

/-- The number of the character. -/
def number (m : Misplaced) : String :=
  "U+" ++ String.ofList ((Text.paddedHex 4 m.char.toNat).map Char.toUpper)

/-- The label with the place of the character in it. -/
def place (m : Misplaced) (between : String) : String :=
  "at position " ++ toString m.position ++ between ++ Text.quoted (String.ofList m.label)

end Misplaced

/-- Why a text is no label. -/
inductive LabelFault where
  | empty
  | uncomposed
  | hyphenPair
  | outerHyphen
  | leadingMark
  | joiner (m : Misplaced)
  | neighbour (m : Misplaced)
  | character (m : Misplaced)
  | direction (fault : DirectionFault)
  deriving DecidableEq, Repr

namespace LabelFault

/-- The wording of a fault. -/
def message : LabelFault → String
  | .empty => "Empty Label"
  | .uncomposed => "Label must be in Normalization Form C"
  | .hyphenPair => "Label has disallowed hyphens in 3rd and 4th position"
  | .outerHyphen => "Label must not start or end with a hyphen"
  | .leadingMark => "Label begins with an illegal combining character"
  | .joiner m => "Unknown codepoint adjacent to joiner " ++ m.number ++ " " ++ m.place " in "
  | .neighbour m => "Codepoint " ++ m.number ++ " not allowed " ++ m.place " in "
  | .character m => "Codepoint " ++ m.number ++ " " ++ m.place " of " ++ " not allowed"
  | .direction fault => fault.message

/-- The class of a fault. -/
def kind : LabelFault → FaultClass
  | .neighbour _ => .hostNeighbour
  | .character _ => .hostCharacter
  | .direction _ => .hostDirection
  | _ => .hostName

end LabelFault

/-- Why an ASCII name stands for no name. -/
inductive NameFault where
  | codeMissing
  | codeEnd
  | code
  | label (fault : LabelFault)
  deriving DecidableEq, Repr

namespace NameFault

/-- The wording of a fault. -/
def message : NameFault → String
  | .codeMissing => "Malformed A-label, no Punycode eligible content found"
  | .codeEnd => "A-label must not end with a hyphen"
  | .code => "Invalid A-label"
  | .label fault => fault.message

/-- The class of a fault. -/
def kind : NameFault → FaultClass
  | .label fault => fault.kind
  | _ => .hostName

/-- A fault of a name as one of the transport. -/
def toFault (fault : NameFault) : Fault :=
  Fault.simple fault.kind fault.message

end NameFault

end Bazaar.Host
