import Bazaar.Yaml.Cursor
import Bazaar.Yaml.Fault

/-!
# YAML tokens

The smallest pieces of a YAML text.  The start and the end of an indented collection are tokens
too, though no character stands for them.  A place from which a text cannot be read on is the last
token, so a fault matters only to a reader who comes that far.
-/

namespace Bazaar.Yaml

/-- A tag as written: a handle, unless it is given in full, and the rest. -/
structure TagText where
  handle : Option String
  suffix : String
  deriving DecidableEq, Repr

/-- A line that tells about the text as a whole. -/
inductive Directive where
  | version (major minor : Nat)
  | tagHandle (handle start : String)
  | reserved
  deriving DecidableEq, Repr

/-- A token. -/
inductive Token where
  | directive (d : Directive)
  | documentStart
  | documentEnd
  | blockSequenceStart
  | blockMappingStart
  | blockEnd
  | flowSequenceStart
  | flowSequenceEnd
  | flowMappingStart
  | flowMappingEnd
  | flowEntry
  | blockEntry
  | key
  | value
  | alias (name : String)
  | anchor (name : String)
  | tag (t : TagText)
  | scalar (plain : Bool) (text : String)
  | streamEnd
  | broken (fault : Fault)
  deriving DecidableEq, Repr

end Bazaar.Yaml
