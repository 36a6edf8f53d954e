import Bazaar.Platform
import Bazaar.Query.Percent
import Bazaar.Text.Ascii
import Bazaar.Text.Blank
import Bazaar.Text.Case
import Bazaar.Text.Line
import Bazaar.Text.Order

/-!
# Media types

The value of a header that names the kind of a content: words with parameters between semicolons.
A semicolon inside quotes belongs to its parameter.  The value of a parameter may come in pieces.
-/

namespace Bazaar.MediaType

/-- Cuts a value at semicolons outside of quotes, given whether a quote is open, whether a
backslash comes before, and the parameter so far, the last character first. -/
def parametersFrom (isOpen escaped : Bool) (current : List Char) : List Char → List (List Char)
  | [] => [current.reverse]
  | c :: rest =>
    if c == ';' && !isOpen then current.reverse :: parametersFrom false false [] rest
    else
      let isOpen := if c == '"' && !escaped then !isOpen else isOpen
      parametersFrom isOpen (c == '\\') (c :: current) rest

/-- The parameters of a value. -/
def parameters (cs : List Char) : List (List Char) :=
  parametersFrom false false [] cs

/-- The name of a parameter, and its value; without an equals sign it has none. -/
def nameAndValue (cs : List Char) : List Char × List Char :=
  let (name, value) := (Text.cutAt? '=' cs).getD (cs, [])
  (Text.trimChars name, Text.trimChars value)

/-- Takes the backslash away from the front of each pair of it and another character. -/
def unescape (c : Char) : List Char → List Char
  | '\\' :: d :: rest => if d == c then c :: unescape c rest else '\\' :: unescape c (d :: rest)
  | d :: rest => d :: unescape c rest
  | [] => []

/-- A value without the quotes or angle brackets around it. -/
def unquote (cs : List Char) : List Char :=
  let inside := (cs.drop 1).dropLast
  if cs.length < 2 then cs
  else if cs.head? == some '"' && cs.getLast? == some '"' then
    unescape '"' (unescape '\\' inside)
  else if cs.head? == some '<' && cs.getLast? == some '>' then inside
  else cs

/-! ## Values in pieces -/

/-- A piece of a value: the name with which the value is put together, the place of the piece among
the others, and whether its text is written with percent signs. -/
structure Piece where
  name : List Char
  place : Option Nat
  isEscaped : Bool
  text : List Char

namespace Piece

/-- Whether a character belongs to a name that pieces share. -/
def isNameChar (c : Char) : Bool :=
  c.isAlphanum || c == '_'

/-- The piece that a parameter is when a star follows its name.  A number may stand behind the star,
and one more star behind the number; a star at the end is for percent signs. -/
def ofParameter? (name value : List Char) : Option Piece :=
  (Text.cutAt? '*' name).bind fun (own, place) =>
    let isEscaped := name.getLast? == some '*'
    let digits := if isEscaped then place.dropLast else place
    if !own.isEmpty && own.all isNameChar && digits.all Text.isAsciiDigit &&
        (place.isEmpty || !digits.isEmpty) then
      let number := Text.natInBase 10 (digits.filterMap Text.digitValue?)
      some ⟨own, if digits.isEmpty then none else some number, isEscaped, unquote value⟩
    else none

/-- The text of a piece without percent signs. -/
def plainText (p : Piece) : List Char :=
  if p.isEscaped then (Percent.bytes p.text).map fun b => Char.ofNat b.toNat else p.text

/-- What orders the pieces of one value: the place, one without a number first. -/
def order (p : Piece) : Nat :=
  p.place.elim 0 (· + 1)

/-- Whether a piece may stand before another one; those of one place are ordered by their texts. -/
def isBefore (p q : Piece) : Bool :=
  p.order < q.order ||
    p.order == q.order && !Text.charsBefore q.text p.text

end Piece

variable [Platform]

/-- The codec of a label; no label stands for ASCII. -/
def codecOf (label : List Char) : Except Refusal (Option Text.Codec) :=
  if label.isEmpty then .ok (some .ascii) else Platform.codec (String.ofList label)

/-- The value that pieces of one name make.  Before two single quotes it may name the codec that it
is written in; a value which is no text of that codec stays as it is written. -/
def ofPieces (pieces : List Piece) : Except Refusal (List Char) :=
  let text := (pieces.mergeSort Piece.isBefore).flatMap Piece.plainText
  if !pieces.any (·.isEscaped) then .ok text
  else
    let written : Option (List Char × List Char) := do
      let (label, rest) ← Text.cutAt? '\'' text
      let (_, rest) ← Text.cutAt? '\'' rest
      return (label, rest)
    let (label, value) := written.getD ([], text)
    let bytes := value.map fun c => UInt8.ofNat c.toNat
    (codecOf label).map fun codec => (codec.bind fun codec => codec.strict bytes).getD value

/-! ## The charset -/

/-- Whether a name is a certain one, whatever its case. -/
def isNamed (name : String) (cs : List Char) : Bool :=
  Text.lower (String.ofList cs) == name

/-- The value of a parameter: of one that is written as a whole, else of the first one in pieces. -/
def parameter? (name : String) (cs : List Char) : Except Refusal (Option (List Char)) :=
  let named := (parameters cs).map nameAndValue
  let isWhole (p : List Char × List Char) := isNamed name p.1
  match named.find? isWhole with
  | some (_, value) => .ok (some (unquote value))
  | none =>
    let pieces := (named.drop 1).filterMap fun (n, value) => Piece.ofParameter? n value
    match pieces.find? fun p => isNamed name p.name with
    | none => .ok none
    | some first => (ofPieces (pieces.filter fun p => p.name == first.name)).map some

/-- The charset that a value names, in lower case, if it is ASCII. -/
def charset? (s : String) : Except Refusal (Option String) :=
  (parameter? "charset" s.toList).map fun value =>
    (value.filter (·.all Text.isAscii)).map fun cs => Text.lower (String.ofList cs)

end Bazaar.MediaType
