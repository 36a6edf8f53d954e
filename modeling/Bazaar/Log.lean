/-!
# Log entries

What the library reports while it works: a level and a line of text.
-/

namespace Bazaar

/-- How much a log entry matters. -/
inductive LogLevel where
  | debug
  | info
  | warning
  | error
  | critical
  deriving DecidableEq, Repr

namespace LogLevel

/-- The rank of a level, by which levels are compared. -/
def rank : LogLevel → Int
  | .debug => 10
  | .info => 20
  | .warning => 30
  | .error => 40
  | .critical => 50

/-- The name of a level. -/
def name : LogLevel → String
  | .debug => "DEBUG"
  | .info => "INFO"
  | .warning => "WARNING"
  | .error => "ERROR"
  | .critical => "CRITICAL"

end LogLevel

/-- A level and a line of text. -/
structure LogEntry where
  level : LogLevel
  text : String
  deriving DecidableEq, Repr

namespace LogEntry

/-- The entry with its level in brackets before the text. -/
def labelled (e : LogEntry) : String :=
  "[" ++ e.level.name ++ "] " ++ e.text

end LogEntry

end Bazaar
