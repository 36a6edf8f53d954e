import Bazaar.Config.Fault

/-!
# Sections of a configuration

Typed access to the entries of a section.  Each reader takes the name of an entry and the full key
under which a fault reports it.
-/

namespace Bazaar.Config

/-- A section of the root; one that may be missing is empty then. -/
def section? (root : Mapping) (key : String) (required : Bool) : Checked Mapping :=
  match root.get? key with
  | none | some .null => if required then .error (.missing key) else .ok []
  | some (.map entries) => .ok entries
  | some _ => .error (.wrongType key .object)

/-- A text, and how messages show it. -/
structure Word where
  value : String
  label : String := value
  deriving DecidableEq, Repr

/-- A value that has to be a text; the word for a sort order has a label of its own. -/
def asWord (key : String) : Value → Checked Word
  | .str s => .ok { value := s }
  | .sortKey k => .ok ⟨k.name, k.label⟩
  | _ => .error (.wrongType key .string)

/-- A value that has to be a text. -/
def asText (key : String) (v : Value) : Checked String :=
  (asWord key v).map Word.value

/-- A value that has to be a flag. -/
def asFlag (key : String) : Value → Checked Bool
  | .bool b => .ok b
  | _ => .error (.wrongType key .boolean)

/-- A value that has to be an integer. -/
def asInteger (key : String) : Value → Checked Int
  | .int n => .ok n
  | _ => .error (.wrongType key .integer)

/-- A value that has to be a number, as a double. -/
def asDouble (key : String) : Value → Checked Float
  | .float x => .ok x
  | .int n => (Number.floatOfInt n).mapError fun o => .number (.overflow o)
  | _ => .error (.wrongType key .number)

/-- A value that has to be a mapping. -/
def asMapping (key : String) : Value → Checked Mapping
  | .map entries => .ok entries
  | _ => .error (.wrongType key .object)

/-- Reads the items of a list, each under its place. -/
def readItems (read : String → Value → Checked α) (key : String) (place : Nat) :
    List Value → Checked (List α)
  | [] => .ok []
  | v :: rest => do
    let first ← read (key ++ "[" ++ toString place ++ "]") v
    return first :: (← readItems read key (place + 1) rest)

/-- A value that has to be a list. -/
def asList (read : String → Value → Checked α) (key : String) : Value → Checked (List α)
  | .list items => readItems read key 0 items
  | _ => .error (.wrongType key .list)

/-- An entry that has to be there. -/
def required (s : Mapping) (name key : String) (read : String → Value → Checked α) :
    Checked α :=
  match s.get? name with
  | some v => read key v
  | none => .error (.missing key)

/-- An entry that may be missing. -/
def optional (s : Mapping) (name key : String) (default : α) (read : String → Value → Checked α) :
    Checked α :=
  match s.get? name with
  | some v => read key v
  | none => .ok default

/-- A condition on a setting. -/
def ensure (holds : Bool) (key : String) (rule : Rule) : Checked Unit :=
  if holds then .ok () else .error (.broken key rule)

end Bazaar.Config
