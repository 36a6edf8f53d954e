import Bazaar.Compression.Envelope
import Bazaar.Failure.Fault
import Bazaar.Transport.MediaType

/-!
# Answers

What the search service sends back: a status, headers and a body.  The body may be compressed, and
its text depends on the codec that the headers name.
-/

namespace Bazaar

/-- An answer of the search service.  Its body follows behind its headers, unless it is at hand with
them. -/
structure Answer where
  status : Int := 200
  headers : List (String × String) := []
  body : List UInt8 := []
  atHand : Bool := false
  deriving DecidableEq, Repr

namespace Answer

/-! ## Headers -/

/-- The values of a header in order, whatever the case of its name. -/
def headerValues (a : Answer) (name : String) : List String :=
  (a.headers.filter fun (n, _) => n.toLower == name).map (·.2)

/-- The values of a header as one. -/
def header? (a : Answer) (name : String) : Option String :=
  match a.headerValues name with
  | [] => none
  | values => some (String.intercalate ", " values)

/-- The first name or value of a header that is not ASCII. -/
def badHeader? (a : Answer) : Option String :=
  (a.headers.flatMap fun (name, value) => [name, value]).find? fun s => !s.toList.all Text.isAscii

/-! ## Content -/

/-- The ways of writing a content as a body that matter; any other one is passed over. -/
inductive Coding where
  | file
  | stream
  deriving DecidableEq, Repr

/-- The coding of a name. -/
def Coding.ofName? (name : String) : Option Coding :=
  if name == "gzip" then some .file
  else if name == "deflate" then some .stream
  else none

/-- The codings of the body in the order in which they were applied. -/
def codings (a : Answer) : List Coding :=
  (a.headerValues "content-encoding").flatMap fun value =>
    (Text.splitAt ',' value.toList).filterMap fun name =>
      Coding.ofName? (Text.lower (Text.trim (String.ofList name)))

/-- Undoes a coding.  A stream may come without its envelope. -/
def Coding.undo (coding : Coding) (bytes : List UInt8) :
    Except Compression.Fault (List UInt8) :=
  match coding with
  | .file => Compression.ofFile bytes
  | .stream =>
    match Compression.ofStream bytes with
    | .ok out => .ok out
    | .error _ => Compression.ofBare bytes

/-- The bytes of the content: the codings are undone, the last one first. -/
def content (a : Answer) : Except Fault (List UInt8) :=
  let undone := a.codings.reverse.foldlM (fun bytes (coding : Coding) => coding.undo bytes) a.body
  undone.mapError fun fault => Fault.simple .decoding fault.message

/-! ## Text -/

variable [Platform]

/-- The codec of a header that names one. -/
def codecOf (contentType : String) : Except Refusal (Option Text.Codec) := do
  match ← MediaType.charset? contentType with
  | none => return none
  | some name => Platform.codec name

/-- The codec of the content: the one that the headers name, if it is known. -/
def codec (a : Answer) : Except Refusal Text.Codec :=
  match a.header? "content-type" with
  | none => .ok .utf8
  | some contentType => (codecOf contentType).map fun codec => codec.getD .utf8

/-- The characters of the content. -/
def chars (a : Answer) (content : List UInt8) : Except Refusal (List Char) := do
  (← a.codec).lenient content

/-- The content as text.  No content is no text, whatever the codec. -/
def text (a : Answer) (content : List UInt8) : Except Fault String :=
  if content.isEmpty then .ok ""
  else ((a.chars content).map String.ofList).mapError fun refusal =>
    Fault.simple refusal.kind refusal.message

end Answer

end Bazaar
