import Bazaar.Command.FilterArgument
import Bazaar.Text.Likeness
import Bazaar.Text.Order

/-!
# Arguments

Arguments taken apart into options with values and positional ones, and why arguments may be
refused.  Two hyphens alone end the options.
-/

namespace Bazaar

/-- Why arguments are refused. -/
inductive UsageFault where
  | noSuchOption (option : String) (similar : List String)
  | missingValue (option : String)
  | unwantedValue (option : String)
  | notOneOf (option value : String) (words : List String)
  | notInteger (option value : String)
  | belowZero (option : String) (n : Int)
  | directory (option path : String)
  | nullByte
  | filter (fault : FilterArgument.Fault)
  | missingArgument (name : String)
  | extraArguments (arguments : List String)
  | missingCommand
  | noSuchCommand (name : String)
  deriving DecidableEq, Repr

namespace UsageFault

/-- Words that may have been meant. -/
def suggestion : List String → String
  | [] => ""
  | [word] => " Did you mean " ++ word ++ "?"
  | words =>
    " (Possible options: " ++
      String.intercalate ", " (Text.sorted words) ++ ")"

/-- The wording of a value that is refused. -/
def invalid (option reason : String) : String :=
  "Invalid value for " ++ option ++ ": " ++ reason

/-- The wording of a fault. -/
def message : UsageFault → String
  | .noSuchOption option similar => "No such option: " ++ option ++ suggestion similar
  | .missingValue option => "Option " ++ Text.quoted option ++ " requires an argument."
  | .unwantedValue option => "Option " ++ Text.quoted option ++ " does not take a value."
  | .notOneOf option value words =>
    invalid (Text.quoted option)
      (Text.quoted value ++ " is not one of " ++
        String.intercalate ", " (words.map Text.quoted) ++ ".")
  | .notInteger option value =>
    invalid (Text.quoted option) (Text.quoted value ++ " is not a valid integer range.")
  | .belowZero option n =>
    invalid (Text.quoted option) (toString n ++ " is not in the range x>=0.")
  | .directory option path =>
    invalid (Text.quoted option) ("File " ++ Text.quoted path ++ " is a directory.")
  | .nullByte => "embedded null byte"
  | .filter fault => invalid "--filter" fault.message
  | .missingArgument name => "Missing argument '" ++ name ++ "'."
  | .extraArguments [argument] => "Got unexpected extra argument (" ++ argument ++ ")"
  | .extraArguments arguments =>
    "Got unexpected extra arguments (" ++ String.intercalate " " arguments ++ ")"
  | .missingCommand => "Missing command."
  | .noSuchCommand name => "No such command " ++ Text.quoted name ++ "."

/-- Whether the usage is shown before the fault. -/
def showsUsage : UsageFault → Bool
  | .missingValue _ | .unwantedValue _ => false
  | _ => true

end UsageFault

/-- Arguments taken apart: options with their values in order, whether help was asked for, and the
positional arguments. -/
structure Arguments where
  options : List (String × String) := []
  help : Bool := false
  positional : List String := []
  deriving DecidableEq, Repr

namespace Arguments

/-- The option that asks for help. -/
def helpOption : String := "--help"

/-- Arguments with an option in front. -/
def withOption (a : Arguments) (name value : String) : Arguments :=
  { a with options := (name, value) :: a.options }

/-- Arguments with a positional one in front. -/
def withPositional (a : Arguments) (value : String) : Arguments :=
  { a with positional := value :: a.positional }

/-- The fault of an option that does not exist.  Only a word after two hyphens may have been
another one; a single hyphen stands before one letter. -/
def unknown (names : List String) (argument name : List Char) : UsageFault :=
  match argument with
  | '-' :: '-' :: _ =>
    .noSuchOption (String.ofList name)
      (Text.closeWords (String.ofList name) (names ++ [helpOption]))
  | _ => .noSuchOption (String.ofList (argument.take 2)) []

/-- An option by itself: its name, and the value behind an equals sign. -/
def nameAndValue (argument : List Char) : List Char × Option (List Char) :=
  match Text.cutAt? '=' argument with
  | some (name, value) => (name, some value)
  | none => (argument, none)

/-- Whether an argument looks like an option: it starts with a hyphen and goes on. -/
def isOption (argument : String) : Bool :=
  argument.startsWith "-" && argument != "-"

/-- Takes arguments apart, given the names of the options that take a value.  Where positional
arguments end the options, all that follows the first one is positional. -/
def read (names : List String) (mixed : Bool) : List String → Except UsageFault Arguments
  | [] => .ok {}
  | "--" :: rest => .ok { positional := rest }
  | argument :: rest =>
    if isOption argument then
      let (name, value) := nameAndValue argument.toList
      let word := String.ofList name
      if names.contains word then
        match value, rest with
        | some value, rest =>
          (read names mixed rest).map fun a => a.withOption word (String.ofList value)
        | none, value :: rest => (read names mixed rest).map fun a => a.withOption word value
        | none, [] => .error (.missingValue word)
      else if word == helpOption then
        if value.isSome then .error (.unwantedValue word)
        else (read names mixed rest).map fun a => { a with help := true }
      else .error (unknown names argument.toList name)
    else if mixed then (read names mixed rest).map fun a => a.withPositional argument
    else .ok { positional := argument :: rest }

/-- The names of the options that are given, in the order in which they first occur. -/
def given (a : Arguments) : List String :=
  (a.options.map (·.1)).eraseDups

/-- All values of an option in order. -/
def values (a : Arguments) (name : String) : List String :=
  (a.options.filter fun (n, _) => n == name).map (·.2)

/-- The value of an option that counts: the last one. -/
def value? (a : Arguments) (name : String) : Option String :=
  (a.values name).getLast?

end Arguments

end Bazaar
