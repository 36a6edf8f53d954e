import Bazaar.Calendar.DateTime
import Bazaar.Disk
import Bazaar.Log
import Bazaar.Text.Case
import Bazaar.Text.Quoted

/-!
# Journals

Where the lines of a log go: to the console from some rank on, and to a file, if there is one, from
the rank of debugging on.  A line carries the time and an abbreviated level.
-/

namespace Bazaar

/-- The time in two forms: as lines carry it, and as the names of files do. -/
structure Stamp where
  line : String
  file : String
  deriving DecidableEq, Repr

/-- The stamp of a date and time: month, day and time of day, two digits each. -/
def Stamp.ofDateTime (t : Calendar.DateTime) : Stamp :=
  let two := Text.paddedNat 2
  ⟨two t.date.month ++ "-" ++ two t.date.day ++ " " ++ two t.hour ++ ":" ++ two t.minute ++ ":" ++
      two t.second,
    two t.date.month ++ two t.date.day ++ two t.hour ++ two t.minute ++ two t.second⟩

/-- A journal: its stamp, the lowest rank on the console, the lowest rank at all, the file, and the
texts written so far. -/
structure Journal where
  stamp : Stamp
  consoleRank : Int
  rank : Int
  path : Option Path := none
  console : String := ""
  file : String := ""

namespace Journal

/-- Why no journal can be opened. -/
inductive Fault where
  /-- A word that stands for a line format in place of a level. -/
  | format (text : String)
  /-- A word that stands for all styles of line formats in place of a level. -/
  | styles (text : String)
  | disk (fault : Disk.Fault)
  deriving DecidableEq, Repr

/-- The wording of a fault. -/
def Fault.message : Fault → String
  | .format text => "Unknown level: " ++ Text.quoted text
  | .styles text => "Level not an integer or a valid string: " ++ text
  | .disk fault => fault.message

/-- The class of a fault. -/
def Fault.kind : Fault → FaultClass
  | .format _ => .value
  | .styles _ => .type
  | .disk fault => fault.kind

/-- The words for levels with their ranks. -/
def levelWords : List (String × Int) :=
  [("CRITICAL", 50), ("FATAL", 50), ("ERROR", 40), ("WARNING", 30), ("WARN", 30), ("INFO", 20),
   ("DEBUG", 10), ("NOTSET", 0)]

/-- The usual line format. -/
def basicFormat : String := "%(levelname)s:%(name)s:%(message)s"

/-- The marks of the styles of line formats, each with its name and the usual format in it. -/
def formatStyles : List (String × String × String) :=
  [("%", "Percent", basicFormat),
   ("\x7b", "StrFormat", "\x7blevelname\x7d:\x7bname\x7d:\x7bmessage\x7d"),
   ("$", "StringTemplate", "$\x7blevelname\x7d:$\x7bname\x7d:$\x7bmessage\x7d")]

/-- The text of a style. -/
def styleText : String × String × String → String
  | (mark, name, format) =>
    "'" ++ mark ++ "': (<class 'logging." ++ name ++ "Style'>, '" ++ format ++ "')"

/-- The words that stand for something other than a level. -/
def otherWords : List (String × Fault) :=
  [("BASIC_FORMAT", .format basicFormat),
   ("_STYLES",
    .styles ("\x7b" ++ String.intercalate ", " (formatStyles.map styleText) ++ "\x7d"))]

/-- The rank of a word in any case; a word that says nothing stands for the level of
information. -/
def rankOfWord (word : String) : Except Fault Int :=
  let word := Text.upper word
  match otherWords.lookup word with
  | some fault => .error fault
  | none => .ok ((levelWords.lookup word).getD LogLevel.info.rank)

/-- Makes the directory of an action, and gives the place of the file in it. -/
def openFile (disk : Disk) (stamp : Stamp) (directory action : String) :
    Except Disk.Fault Path := do
  let base := Path.ofString (if directory.isEmpty then "log" else directory)
  let directory := base.inside action
  let disk ← disk.makeDirectories directory directory.parts.length
  disk.writable (directory.inside (action ++ "_" ++ stamp.file ++ ".log"))

/-- Opens a journal.  There is a file only for a named action; with a file in mind the journal
takes everything from the rank of debugging on. -/
def start (disk : Disk) (stamp : Stamp) (level action : String) (toFile : Bool)
    (directory : String) : Except Fault Journal := do
  let rank ← rankOfWord level
  let path ←
    if toFile && !action.isEmpty then
      ((openFile disk stamp directory action).mapError .disk).map some
    else pure none
  return {
    stamp := stamp
    consoleRank := rank
    rank := if toFile then min LogLevel.debug.rank rank else rank
    path := path }

/-- The lowest rank that the journal takes; a journal without one takes warnings. -/
def lowestRank (j : Journal) : Int :=
  if j.rank = 0 then LogLevel.warning.rank else j.rank

/-- The four letters for a rank; ranks without a level share theirs. -/
def abbreviation (rank : Int) : String :=
  if rank = LogLevel.debug.rank then "DEBG"
  else if rank = LogLevel.info.rank then "INFO"
  else if rank = LogLevel.warning.rank then "WARN"
  else if rank = LogLevel.error.rank || rank = LogLevel.critical.rank then "ERRO"
  else "Leve"

/-- A line. -/
def line (j : Journal) (rank : Int) (text : String) : String :=
  j.stamp.line ++ " [" ++ abbreviation rank ++ "] " ++ text ++ "\n"

/-- Writes a text with a rank. -/
def write (j : Journal) (rank : Int) (text : String) : Journal :=
  if rank < j.lowestRank then j
  else
    let line := j.line rank text
    { j with
      console := if j.consoleRank ≤ rank then j.console ++ line else j.console
      file := if LogLevel.debug.rank ≤ rank then j.file ++ line else j.file }

/-- Writes entries. -/
def writeAll (j : Journal) (entries : List LogEntry) : Journal :=
  entries.foldl (fun j e => j.write e.level.rank e.text) j

/-- The file in the working directory and its content, if there is one. -/
def files (j : Journal) : List (String × String) :=
  ((j.path.filter Path.staysInside).map fun p => (p.text, j.file)).toList

/-- How many places lines go to. -/
def places (j : Journal) : Nat :=
  if j.path.isSome then 2 else 1

end Journal

end Bazaar
