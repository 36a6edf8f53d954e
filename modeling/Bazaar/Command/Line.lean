import Bazaar.Command.Argument
import Bazaar.Command.Basic
import Bazaar.Config.File

/-!
# Command lines

What a command line asks for: first the configuration file and the name of a command, then, once
the configuration is read, the command with its own arguments.
-/

namespace Bazaar.CommandLine

/-- The name of the program. -/
def programName : String := "marketsearch"

/-- The option for the configuration file. -/
def configOption : String := "--config"

/-- The first part of a command line: the configuration file, the command, and its arguments. -/
structure Head where
  config : Path
  command : Command.Name
  arguments : List String

/-- A command line may ask for help in place of anything else. -/
inductive Asked (α : Type) where
  | help
  | want (a : α)

/-- The configuration file that options name; a directory is refused. -/
def configPath (disk : Disk) (a : Arguments) : Except UsageFault Path :=
  match a.value? configOption with
  | none => .ok Config.defaultPath
  | some "" => .ok (Path.ofString "")
  | some text =>
    let path := Path.ofString text
    if text.toList.contains '\x00' then .error .nullByte
    else if disk.isDirectory path then .error (.directory configOption text)
    else .ok path

/-- What becomes of a word that is no command.  A word that looks like an option is read as one
first. -/
def noCommand (disk : Disk) (word : String) (rest : List String) :
    Except UsageFault (Asked Head) := do
  let a ← Arguments.read [configOption] false (word :: rest)
  if a.help then return .help
  let _ ← configPath disk a
  throw (.noSuchCommand word)

/-- Reads the first part of a command line. -/
def readHead (disk : Disk) (arguments : List String) :
    Except UsageFault (Asked Head) := do
  let a ← Arguments.read [configOption] false arguments
  if a.help then return .help
  let config ← configPath disk a
  match a.positional with
  | [] => throw .missingCommand
  | word :: rest =>
    match Command.Name.ofWord? word with
    | some command => return .want ⟨config, command, rest⟩
    | none => noCommand disk word rest

/-! ## The arguments of commands -/

/-- The options of each command. -/
def options : Command.Name → List String
  | .search => ["--filter", "--sort", "--page", "--hits-per-page", "--attr", "--format"]
  | .searchAll => ["--hits-per-page", "--format"]
  | .lookup | .counts | .health => ["--format"]

/-- The arguments that each command names in its usage. -/
def form : Command.Name → String
  | .search => "[OPTIONS] INDEX [TERM]"
  | .searchAll => "[OPTIONS] [TERM]"
  | .lookup => "[OPTIONS] INDEX IDS..."
  | .counts | .health => "[OPTIONS]"

/-- Checks that a value is one of some words. -/
def checkWord (option value : String) (words : List String) : Except UsageFault Unit :=
  if words.contains value then .ok () else .error (.notOneOf option value words)

section

variable [Platform]

/-- The integer of a value, from zero on.  One with too many digits is none. -/
def count (option value : String) : Except UsageFault Int :=
  match Text.int? value.toList with
  | none => .error (.notInteger option value)
  | some n =>
    if ¬Platform.Allows (value.toList.filterMap Text.digitValue?).length then
      .error (.notInteger option value)
    else if n < 0 then .error (.belowZero option n)
    else .ok n

/-- Checks the value of one option. -/
def checkOption (a : Arguments) (option : String) : Except UsageFault Unit :=
  match option, a.value? option with
  | "--format", some value => checkWord option value Render.Writer.formats
  | "--sort", some value => checkWord option value (SortKey.all.map SortKey.name)
  | "--page", some value | "--hits-per-page", some value => (count option value).map fun _ => ()
  | _, _ => .ok ()

/-- Checks the values of options. -/
def checkOptions (a : Arguments) : List String → Except UsageFault Unit
  | [] => .ok ()
  | option :: rest => do
    checkOption a option
    checkOptions a rest

/-- The integer of an option. -/
def count? (a : Arguments) (option : String) : Except UsageFault (Option Int) :=
  match a.value? option with
  | none => .ok none
  | some value => (count option value).map some

omit [Platform] in
/-- Refuses arguments that are left over. -/
def noMore : List String → Except UsageFault Unit
  | [] => .ok ()
  | arguments => .error (.extraArguments arguments)

/-- The command of checked options and positional arguments. -/
def command (name : Command.Name) (a : Arguments) : Except UsageFault Command :=
  match name, a.positional with
  | .search, [] | .lookup, [] => .error (.missingArgument "INDEX")
  | .search, index :: rest => do
    noMore (rest.drop 1)
    let filters ← (FilterArgument.read (a.values "--filter")).mapError .filter
    return .search index (rest.headD "") {
      hitsPerPage := ← count? a "--hits-per-page"
      page := (← count? a "--page").getD 0
      filters := filters
      attributes := a.values "--attr"
      sortBy :=
        match a.value? "--sort" with
        | some word => .word word
        | none => .unspecified }
  | .searchAll, rest => do
    noMore (rest.drop 1)
    return .searchAll (rest.headD "") (← count? a "--hits-per-page")
  | .lookup, [_] => .error (.missingArgument "IDS...")
  | .lookup, index :: ids => .ok (.lookup index ids)
  | .counts, rest => do
    noMore rest
    return .counts
  | .health, rest => do
    noMore rest
    return .health

omit [Platform] in
/-- The format of the output. -/
def format (a : Arguments) : String :=
  (a.value? "--format").getD "console"

/-- Reads the arguments of a command: the command and the format of its output. -/
def readCommand (name : Command.Name) (arguments : List String) :
    Except UsageFault (Asked (Command × String)) := do
  let a ← Arguments.read (options name) true arguments
  if a.help then return .help
  checkOptions a a.given
  let c ← command name a
  return .want (c, format a)

end

/-! ## What is shown -/

/-- The usage of the program. -/
def usage : String := programName ++ " [OPTIONS] COMMAND [ARGS]..."

/-- The usage of a command. -/
def commandUsage (name : Command.Name) : String :=
  programName ++ " " ++ name.word ++ " " ++ form name

/-- What is shown for a fault: the usage with a hint, if the fault shows it, and the fault. -/
def faultText (path usage : String) (fault : UsageFault) : String :=
  let error := "Error: " ++ fault.message ++ "\n"
  if fault.showsUsage then
    "Usage: " ++ usage ++ "\nTry '" ++ path ++ " --help' for help.\n\n" ++ error
  else error

end Bazaar.CommandLine
