import Bazaar.Text.Order
import Bazaar.Value.Display

/-!
# Filters

A filter is a list of criteria, all of which a record has to meet.  Each criterion is read off one
entry of a mapping: numbers under a key that begins with `min` or `max` are bounds, flags, texts
and groups of alternatives stand under their own key, and anything else is no criterion.
-/

namespace Bazaar

/-- The two directions of a bound. -/
inductive Bound where
  | atLeast
  | atMost
  deriving DecidableEq, Repr

namespace Bound

/-- The beginning of a key that asks for a bound. -/
def keyStart : Bound → List Char
  | .atLeast => ['m', 'i', 'n']
  | .atMost => ['m', 'a', 'x']

/-- The sign of a bound in a filter. -/
def sign : Bound → String
  | .atLeast => " >= "
  | .atMost => " <= "

/-- The direction and the field that a key asks for; the first letter of the field becomes lower
case. -/
def ofKey? (key : List Char) : Option (Bound × List Char) :=
  let field (rest : List Char) : List Char :=
    match rest with
    | [] => []
    | c :: cs => Text.lowerChar c ++ cs
  match Text.after? (keyStart .atLeast) key with
  | some rest => some (.atLeast, field rest)
  | none => (Text.after? (keyStart .atMost) key).map fun rest => (.atMost, field rest)

end Bound

/-- A condition on one field of a record. -/
inductive Criterion where
  | bound (field : String) (relation : Bound) (number : String)
  | flag (field : String) (value : Bool)
  | text (field : String) (wanted : String)
  | anyOf (field : String) (texts : List String)
  deriving DecidableEq, Repr

namespace Filter

/-- A character inside the quotes of a filter: a quote is escaped. -/
def escapedChar (c : Char) : List Char :=
  if c = '"' then ['\\', '"'] else [c]

/-- A text between the quotes of a filter. -/
def quotedChars (s : String) : List Char :=
  '"' :: s.toList.flatMap escapedChar ++ ['"']

/-- A field with a quoted text. -/
def termChars (field text : String) : List Char :=
  field.toList ++ ':' :: quotedChars text

/-- Terms of which a record has to meet one. -/
def alternatives (field : String) (texts : List String) : List Char :=
  Text.joinWith " OR ".toList (texts.map (termChars field))

/-- A bound in a filter: an integral double is written as the integer. -/
def numberText : Number → String
  | .int n => toString n
  | .float x =>
    match Decimal.read x with
    | .finite negative mantissa exponent =>
      if Decimal.isWhole mantissa exponent then
        toString (Decimal.truncate negative mantissa exponent)
      else Decimal.text x
    | _ => Decimal.text x

/-- The texts of alternatives, which are sorted by their texts; those of one text keep their
order. -/
def sortedTexts (items : List Value) : List String :=
  (items.mergeSort fun v w => !Text.isBefore w.text v.text).map Value.text

end Filter

namespace Criterion

/-- A criterion as it stands in a filter. -/
def chars : Criterion → List Char
  | .bound field relation number => field.toList ++ relation.sign.toList ++ number.toList
  | .flag field value => field.toList ++ ':' :: (if value then "true" else "false").toList
  | .text field wanted => Filter.termChars field wanted
  | .anyOf field texts => '(' :: Filter.alternatives field texts ++ [')']

/-- The criterion of a number: a bound under a key that asks for one, else none.  A bound that is
not finite is none either. -/
def ofNumber? (key : String) (n : Number) : Except Overflow (Option Criterion) :=
  match Bound.ofKey? key.toList with
  | none => .ok none
  | some (relation, field) => do
    if ← n.isFinite then
      return some (.bound (String.ofList field) relation (Filter.numberText n))
    else return none

/-- The group of some texts; no texts make no group. -/
def ofTexts? (key : String) (texts : List String) : Option Criterion :=
  if texts.isEmpty then none else some (.anyOf key texts)

variable [Platform]

/-- The criterion of a value under a key.  A bound is finite, so it is short enough for every
platform. -/
def ofEntry? (key : String) (value : Value) : Except NumberFault (Option Criterion) :=
  match value with
  | .int n => (ofNumber? key (.int n)).mapError .overflow
  | .float x => (ofNumber? key (.float x)).mapError .overflow
  | .bool b => .ok (some (.flag key b))
  | .set items | .frozenSet items =>
    (Value.checkTexts items).map fun _ => ofTexts? key (Filter.sortedTexts items)
  | .list items | .tuple items =>
    (Value.checkTexts items).map fun _ => ofTexts? key (items.map Value.text)
  | .str s => .ok (some (.text key s))
  | .sortKey k => .ok (some (.text key k.label))
  | _ => .ok none

/-- The criterion of an entry whose key is written first. -/
def ofPair? (e : Value × Value) : Except NumberFault (Option Criterion) := do
  let key ← e.1.write
  ofEntry? key e.2

end Criterion

namespace Filter

variable [Platform]

/-- The criteria of a mapping, in its order. -/
def criteria : Mapping → Except NumberFault (List Criterion)
  | [] => .ok []
  | e :: rest => do
    let first ← Criterion.ofPair? e
    let others ← criteria rest
    return first.toList ++ others

/-- Criteria as one filter. -/
def render (cs : List Criterion) : String :=
  String.ofList (Text.joinWith " AND ".toList (cs.map Criterion.chars))

/-- The filter of a mapping; the empty text is no filter. -/
def compile (m : Mapping) : Except NumberFault String :=
  (criteria m).map render

/-- A filter for the records whose field holds one of the identifiers. -/
def anyId (field : String) (ids : List String) : String :=
  String.ofList (alternatives field ids)

end Filter

end Bazaar
