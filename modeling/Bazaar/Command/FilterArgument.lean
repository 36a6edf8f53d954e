import Bazaar.Decimal.Reading
import Bazaar.Query.Filter

/-!
# Filters on the command line

Filter criteria written as `key=value`.  Under a key that asks for a bound the value is a number;
elsewhere it is a flag, a list with commas, or a text.
-/

namespace Bazaar.FilterArgument

/-- Why an argument is refused. -/
inductive Fault where
  | notKeyValue (item : String)
  | repeated (key : String)
  | notNumber (key value : String)
  | number (fault : NumberFault)
  deriving DecidableEq, Repr

/-- The wording of a refusal. -/
def Fault.message : Fault → String
  | .notKeyValue item => "filter must look like key=value, got " ++ Text.quoted item
  | .repeated key => "filter key given twice: " ++ key
  | .notNumber key value => key ++ " expects a number, got " ++ Text.quoted value
  | .number fault => fault.message

/-- Whether a key asks for a bound: `min` or `max` and then an upper-case ASCII letter or an
underscore. -/
def isBoundKey (key : String) : Bool :=
  let follows (rest : Option (List Char)) : Bool :=
    match rest with
    | some (c :: _) => c == '_' || ('A' ≤ c && c ≤ 'Z')
    | _ => false
  follows (Text.after? (Bound.keyStart .atLeast) key.toList) ||
    follows (Text.after? (Bound.keyStart .atMost) key.toList)

/-- The integer that a sign and digits of any script spell. -/
def integer? (cs : List Char) : Option Int :=
  let (negative, body) := Text.splitSign cs
  if body.isEmpty then none
  else
    (body.mapM Text.digitValue?).map fun ds =>
      if negative then -(Text.natOfDigits ds : Int) else Text.natOfDigits ds

/-- How many digits the text of an integer has. -/
def digitCount (cs : List Char) : Nat :=
  (Text.splitSign cs).2.length

variable [Platform]

/-- The number under a key that asks for a bound. -/
def boundValue (key : String) (value : String) : Except Fault Value :=
  match integer? value.toList with
  | some n =>
    ((Platform.checkReading (digitCount value.toList)).mapError .number).map fun _ => .int n
  | none =>
    match Decimal.ofText? value with
    | some x => .ok (.float x)
    | none => .error (.notNumber key value)

/-- The parts of a list with commas, trimmed; empty parts are left out. -/
def listParts (cs : List Char) : List String :=
  ((Text.splitAt ',' cs).map fun part => String.ofList (Text.trimChars part)).filter
    fun part => !part.isEmpty

/-- The value under a key. -/
def value (key text : String) : Except Fault Value :=
  let trimmed := Text.trim text
  if isBoundKey key then boundValue key trimmed
  else
    let word := Text.lower trimmed
    if word == "true" then .ok (.bool true)
    else if word == "false" then .ok (.bool false)
    else if trimmed.toList.contains ',' then
      .ok (.list ((listParts trimmed.toList).map .str))
    else .ok (.str trimmed)

/-- The key and the value text of an argument. -/
def split (item : String) : Except Fault (String × String) :=
  match Text.cutAt? '=' item.toList with
  | none => .error (.notKeyValue item)
  | some (before, after) =>
    let key := Text.trimChars before
    if key.isEmpty then .error (.notKeyValue item)
    else .ok (String.ofList key, String.ofList after)

/-- Reads arguments after those read before. -/
def readFrom (before : Mapping) : List String → Except Fault Mapping
  | [] => .ok before
  | item :: rest => do
    let (key, text) ← split item
    if (before.get? key).isSome then throw (.repeated key)
    let v ← value key text
    readFrom (before ++ [(.str key, v)]) rest

/-- Reads arguments into a mapping in their order. -/
def read (items : List String) : Except Fault Mapping :=
  readFrom [] items

end Bazaar.FilterArgument
