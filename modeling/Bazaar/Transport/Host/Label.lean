import Bazaar.Text.Line
import Bazaar.Text.Punycode
import Bazaar.Transport.Host.Composition
import Bazaar.Transport.Host.Context
import Bazaar.Transport.Host.Direction
import Bazaar.Transport.Host.Repertoire

/-!
# International host names

A host name of any script and the ASCII name that stands for it.  It is written label by label: one
that is not ASCII becomes its encoded form behind a mark.
-/

namespace Bazaar.Host

/-! ## Labels -/

/-- The first character of a label that may not stand where it does, given those before it, nearest
first. -/
def misplaced? (before : List Char) : List Char → Option LabelFault
  | [] => none
  | c :: rest =>
    if isLetter c || fitsContext before c rest then misplaced? (c :: before) rest
    else
      let m := ⟨c, before.length + 1, before.reverse ++ c :: rest⟩
      if isJoiner c then some (.joiner m)
      else if hasContext c then some (.neighbour m)
      else some (.character m)

/-- Why a text is no label. -/
def labelFault? (cs : List Char) : Option LabelFault :=
  if cs.isEmpty then some .empty
  else if !isComposed cs then some .uncomposed
  else if (cs.drop 2).take 2 == ['-', '-'] then some .hyphenPair
  else if cs.head? == some '-' || cs.getLast? == some '-' then some .outerHyphen
  else if cs.head?.any isMark then some .leadingMark
  else misplaced? [] cs <|> (directionFault? cs).map .direction

/-- A text as a label. -/
def label (cs : List Char) : Except LabelFault (List Char) :=
  match labelFault? cs with
  | some fault => .error fault
  | none => .ok cs

/-! ## Reading -/

/-- The label that an ASCII text stands for; behind a mark it is encoded. -/
def decodeLabel (cs : List Char) : Except NameFault (List Char) :=
  match cs.map Char.toLower with
  | 'x' :: 'n' :: '-' :: '-' :: coded =>
    if coded.isEmpty then .error .codeMissing
    else if coded.getLast? == some '-' then .error .codeEnd
    else
      match Text.Punycode.decode coded with
      | some cs => (label cs).mapError .label
      | none => .error .code
  | cs => (label cs).mapError .label

/-- Whether a character ends a label. -/
def isDot (c : Char) : Bool :=
  c == '.' || c == '\u3002' || c == '\uFF0E' || c == '\uFF61'

/-- The texts between the dots of a name. -/
def labels : List Char → List (List Char)
  | [] => [[]]
  | c :: rest =>
    if isDot c then [] :: labels rest
    else
      match labels rest with
      | [] => [[c]]
      | first :: others => (c :: first) :: others

/-- The name that an ASCII name stands for; it may end with a dot. -/
def decodeName (cs : List Char) : Except NameFault (List Char) := do
  let all := labels cs
  let ends := all.getLast? == some []
  let decoded ← (if ends then all.dropLast else all).mapM decodeLabel
  return Text.joinWith ['.'] (if ends then decoded ++ [[]] else decoded)

/-! ## Writing -/

/-- The most characters that a label may have. -/
def maxLabel : Nat := 63

/-- The most characters that a name may have, an empty label at its end apart. -/
def maxName : Nat := 253

/-- The ASCII label for a label. -/
def encodeLabel (cs : List Char) : Option (List Char) :=
  let encoded :=
    if cs.all Text.Punycode.isBasic then (decodeLabel cs).toOption.map fun _ => cs
    else (label cs).toOption.map fun cs => "xn--".toList ++ Text.Punycode.encode cs
  encoded.filter (·.length ≤ maxLabel)

/-- The ASCII name for a name in lower case; it may end with a dot. -/
def encodeName (cs : List Char) : Option (List Char) := do
  let all := labels cs
  let ends := all.getLast? == some []
  let encoded ← (if ends then all.dropLast else all).mapM encodeLabel
  if encoded.isEmpty then none
  let name := Text.joinWith ['.'] (if ends then encoded ++ [[]] else encoded)
  if name.length ≤ maxName + (if ends then 1 else 0) then some name else none

end Bazaar.Host
