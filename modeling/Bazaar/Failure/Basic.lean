import Bazaar.Text.Blank

/-!
# Search failures

Every failure of a search has a kind, and the kind alone decides whether the search is worth
another attempt.
-/

namespace Bazaar

/-- The kinds of failure at the border to the search service. -/
inductive FailureKind where
  | timeout
  | connection
  | dns
  | transport
  | server
  | client
  | decode
  deriving DecidableEq, Repr

namespace FailureKind

/-- All kinds. -/
def all : List FailureKind :=
  [.timeout, .connection, .dns, .transport, .server, .client, .decode]

/-- The word for a kind. -/
def name : FailureKind → String
  | .timeout => "timeout"
  | .connection => "connection"
  | .dns => "dns"
  | .transport => "transport"
  | .server => "server"
  | .client => "client"
  | .decode => "decode"

/-- The kind of a word. -/
def ofName? (s : String) : Option FailureKind :=
  all.find? (·.name == s)

/-- Whether a failure of the kind may pass by itself. -/
def isTransient : FailureKind → Bool
  | .client | .decode => false
  | _ => true

theorem ofName?_name (k : FailureKind) : ofName? k.name = some k := by
  cases k <;> rfl

end FailureKind

/-- A failed attempt: its kind, the wording of the detail, and the status if the service
answered. -/
structure Failure where
  kind : FailureKind
  message : String
  status : Option Int := none
  deriving DecidableEq, Repr

namespace Failure

/-- The wording of a failure. -/
def text (f : Failure) : String :=
  match f.status with
  | some status => f.kind.name ++ " (HTTP " ++ toString status ++ "): " ++ f.message
  | none => f.kind.name ++ ": " ++ f.message

/-- The kind of an answer that is no success: from 500 on the service is at fault, below it the
request. -/
def kindOfStatus (status : Int) : FailureKind :=
  if 500 ≤ status then .server else .client

/-- The failure of an answer that is no success.  The detail is the start of its body, or the
status when the body is blank. -/
def ofStatus (status : Int) (body : String) : Failure :=
  let start := String.ofList ((Text.trimChars body.toList).take 200)
  let detail := if start.isEmpty then "HTTP " ++ toString status else start
  ⟨kindOfStatus status, detail, some status⟩

end Failure

end Bazaar
