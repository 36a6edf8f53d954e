import Bazaar.Failure.Class
import Bazaar.Retry
import Bazaar.Value.Display

/-!
# Faults of a configuration

Why a configuration is refused: a value of the wrong type, a value that is missing or breaks a
rule, or a number out of range or too long to be written.  A fault names the full key of the value.
-/

namespace Bazaar.Config

/-- The types that a setting may have. -/
inductive Expected where
  | object
  | string
  | boolean
  | integer
  | number
  | list
  deriving DecidableEq, Repr

/-- The wording of a type. -/
def Expected.text : Expected → String
  | .object => "an object"
  | .string => "a string"
  | .boolean => "a boolean"
  | .integer => "an integer"
  | .number => "a number"
  | .list => "a list"

/-- The rules that a setting may break. -/
inductive Rule where
  | positive
  | positiveValues
  | notNegative
  | unitRange
  | notEmpty
  | noDuplicates
  | atLeast (other : String)
  | oneOf (words : List String)
  | webAddress
  deriving DecidableEq, Repr

/-- The wording of a broken rule. -/
def Rule.text : Rule → String
  | .positive => "must be positive"
  | .positiveValues => "values must be positive"
  | .notNegative => "must be >= 0"
  | .unitRange => "must be between 0.0 and 1.0"
  | .notEmpty => "must not be empty"
  | .noDuplicates => "must not contain duplicates"
  | .atLeast other => "must be >= " ++ other
  | .oneOf words => "must be one of " ++ (Value.list (words.map .str)).shown
  | .webAddress => "must start with http:// or https://"

/-- Why a configuration is refused. -/
inductive Fault where
  | wrongType (key : String) (expected : Expected)
  | missing (key : String)
  | broken (key : String) (rule : Rule)
  | unknownIndex (key entry : String)
  | rootNotMapping
  | noCredential (name : String)
  | retry (fault : RetryFault)
  | number (fault : NumberFault)
  deriving DecidableEq, Repr

/-- The wording of a fault. -/
def Fault.message : Fault → String
  | .wrongType key expected => key ++ " must be " ++ expected.text
  | .missing key => "Missing required config: " ++ key
  | .broken key rule => key ++ " " ++ rule.text
  | .unknownIndex key entry => key ++ " entry '" ++ entry ++ "' is not a configured index"
  | .rootNotMapping => "Config root must be a mapping/object"
  | .noCredential name =>
    name ++ " environment variable not set. Set it in your .env file or shell environment."
  | .retry fault => fault.message
  | .number fault => fault.message

/-- The class of a fault. -/
def Fault.kind : Fault → FaultClass
  | .wrongType .. => .type
  | .number (.overflow _) => .overflow
  | _ => .value

/-- Reading a configuration or a part of it. -/
abbrev Checked (α : Type) := Except Fault α

end Bazaar.Config
