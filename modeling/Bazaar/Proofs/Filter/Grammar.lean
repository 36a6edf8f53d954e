import Bazaar.Proofs.Filter.Numeral

/-!
# The grammar of filters

A filter is read as clauses with ` AND ` between them: a bound, a flag, a quoted text, or texts with
` OR ` between them in parentheses.  Inside quotes a quote has a backslash in front of it, and the
first quote without one ends the text.  The reader accepts exactly what the grammar derives, and no
text says two things.
-/

namespace Bazaar.Filter

/-! ## The grammar -/

/-- What a part of a filter says. -/
inductive Clause where
  | bound (field : String) (relation : Bound) (number : String)
  | flag (field : String) (value : Bool)
  | text (field : String) (wanted : String)
  | anyOf (terms : List (String × String))
  deriving DecidableEq, Repr

/-- Whether a character is an ASCII letter, an ASCII digit or an underscore. -/
def isWordChar (c : Char) : Bool :=
  let n := c.toNat
  (0x30 ≤ n && n ≤ 0x39) || (0x41 ≤ n && n ≤ 0x5A) || (0x61 ≤ n && n ≤ 0x7A) || c == '_'

/-- Whether a text is a word: letters, digits and underscores, at least one. -/
def IsWord (s : String) : Prop :=
  s.toList ≠ [] ∧ ∀ c ∈ s.toList, isWordChar c = true

/-- A text as it is written behind an opening quote, up to the closing one. -/
inductive Literal : List Char → List Char → Prop where
  | close : Literal [] ['"']
  | quote {s w : List Char} : Literal s w → Literal ('"' :: s) ('\\' :: '"' :: w)
  /-- A backslash in front of a quote belongs to the quote. -/
  | other {c : Char} {s w : List Char} (plain : c ≠ '"')
      (single : c = '\\' → w.head? ≠ some '"') : Literal s w → Literal (c :: s) (c :: w)

/-- A field with a text. -/
inductive Term : String × String → List Char → Prop where
  | quoted {field text : String} {w : List Char} : IsWord field → Literal text.toList w →
      Term (field, text) (field.toList ++ ':' :: '"' :: w)

/-- Pieces, at least one, with a separator between neighbours. -/
inductive Separated {β : Type} (piece : β → List Char → Prop) (separator : List Char) :
    List β → List Char → Prop where
  | one {b : β} {w : List Char} : piece b w → Separated piece separator [b] w
  | more {b : β} {bs : List β} {w v : List Char} : piece b w → Separated piece separator bs v →
      Separated piece separator (b :: bs) (w ++ separator ++ v)

/-- How a clause is written. -/
inductive Clause.Written : Clause → List Char → Prop where
  | atLeast {field number : String} : IsWord field → isNumeral number.toList = true →
      Written (.bound field .atLeast number) (field.toList ++ " >= ".toList ++ number.toList)
  | atMost {field number : String} : IsWord field → isNumeral number.toList = true →
      Written (.bound field .atMost number) (field.toList ++ " <= ".toList ++ number.toList)
  | yes {field : String} : IsWord field →
      Written (.flag field true) (field.toList ++ ":true".toList)
  | no {field : String} : IsWord field →
      Written (.flag field false) (field.toList ++ ":false".toList)
  | text {field wanted : String} {w : List Char} : Term (field, wanted) w →
      Written (.text field wanted) w
  | anyOf {terms : List (String × String)} {w : List Char} :
      Separated Term " OR ".toList terms w → Written (.anyOf terms) ('(' :: w ++ [')'])

/-- How clauses are written as one filter; no clause is the empty text. -/
inductive Written : List Clause → String → Prop where
  | none : Written [] ""
  | some {cs : List Clause} {s : String} : Separated Clause.Written " AND ".toList cs s.toList →
      Written cs s

/-! ## The reader -/

/-- Reads a text up to its closing quote. -/
def readLiteral : List Char → Option (List Char × List Char)
  | [] => none
  | '\\' :: '"' :: rest => (readLiteral rest).map fun (s, rest) => ('"' :: s, rest)
  | '"' :: rest => some ([], rest)
  | c :: rest => (readLiteral rest).map fun (s, rest) => (c :: s, rest)

/-- Reads a field name, as far as it goes. -/
def readField (w : List Char) : Option (String × List Char) :=
  let field := w.takeWhile isWordChar
  if field.isEmpty then none else some (String.ofList field, w.dropWhile isWordChar)

/-- Reads a numeral, as far as it goes. -/
def readNumber (w : List Char) : Option (String × List Char) :=
  let number := w.takeWhile isNumeralChar
  if isNumeral number then some (String.ofList number, w.dropWhile isNumeralChar) else none

/-- Reads a field with a text. -/
def readTerm (w : List Char) : Option ((String × String) × List Char) := do
  let (field, rest) ← readField w
  match rest with
  | ':' :: '"' :: rest => (readLiteral rest).map fun (s, rest) => ((field, String.ofList s), rest)
  | _ => none

/-- Reads pieces as long as the separator follows. -/
def readSeparated {β : Type} (read : List Char → Option (β × List Char)) (separator : List Char)
    (w : List Char) : Option (List β × List Char) :=
  match read w with
  | none => none
  | some (b, rest) =>
    match Text.after? separator rest with
    | none => some ([b], rest)
    | some next =>
      if next.length < w.length then
        (readSeparated read separator next).map fun (bs, rest) => (b :: bs, rest)
      else none
  termination_by w.length

/-- Reads what stands behind the field name of a clause. -/
def readCondition (field : String) : List Char → Option (Clause × List Char)
  | ' ' :: '>' :: '=' :: ' ' :: rest =>
    (readNumber rest).map fun (n, rest) => (.bound field .atLeast n, rest)
  | ' ' :: '<' :: '=' :: ' ' :: rest =>
    (readNumber rest).map fun (n, rest) => (.bound field .atMost n, rest)
  | ':' :: 't' :: 'r' :: 'u' :: 'e' :: rest => some (.flag field true, rest)
  | ':' :: 'f' :: 'a' :: 'l' :: 's' :: 'e' :: rest => some (.flag field false, rest)
  | ':' :: '"' :: rest =>
    (readLiteral rest).map fun (s, rest) => (.text field (String.ofList s), rest)
  | _ => none

/-- Reads a clause. -/
def readClause : List Char → Option (Clause × List Char)
  | '(' :: rest =>
    match readSeparated readTerm " OR ".toList rest with
    | some (terms, ')' :: rest) => some (.anyOf terms, rest)
    | _ => none
  | w => (readField w).bind fun (field, rest) => readCondition field rest

/-- Reads a filter. -/
def parse (s : String) : Option (List Clause) :=
  if s.isEmpty then some []
  else
    match readSeparated readClause " AND ".toList s.toList with
    | some (cs, []) => some cs
    | _ => none

end Bazaar.Filter
