import Bazaar.Decimal.Fixed
import Bazaar.Json.Reader
import Bazaar.Transport.Redirection
import Bazaar.Transport.WireRequest

/-!
# Deliveries

What comes back for a request: an answer, a fault of the transport, or nothing before the deadline.
A delivery either gives the members of a JSON object or says why there are none.
-/

namespace Bazaar

/-- What comes back for a request. -/
inductive Delivery where
  | answered (a : Answer)
  | raised (r : Raised)
  | expired
  deriving DecidableEq, Repr

namespace Delivery

/-- A search ended with a failure. -/
def failed (kind : FailureKind) (message : String) : Except Raised α :=
  .error (.failure ⟨kind, message, none⟩)

/-- A number of seconds with a fixed number of places. -/
def seconds (places : Nat) (n : Number) : String :=
  match n with
  | .float x => Decimal.fixed places false x
  | .int n => Decimal.fixed places false (Decimal.nearest (n < 0) n.natAbs 1)

/-- What ends a search instead of an answer: a fault of the exchange becomes a failure. -/
def ofRaised (r : Raised) : Raised :=
  match r with
  | .fault f =>
    match f.toFailure? with
    | some failure => .failure failure
    | none => r
  | r => r

/-- The members of a JSON body. -/
def membersOf [Platform] (bytes : List UInt8) : Except Raised Members :=
  match Json.readBytes bytes with
  | .error refusal =>
    if refusal.kind == .recursion then
      .error (.fault (Fault.simple .recursion refusal.message))
    else failed .decode ("invalid JSON body: " ++ refusal.message)
  | .ok (.obj members) => .ok members
  | .ok v => failed .decode ("expected JSON object, got " ++ v.typeName)

/-! ## Answers -/

/-- Whether an address says how it is reached: some text stands before a colon, and no slash before
that. -/
def saysHow (address : Address) : Bool :=
  let isMark (c : Char) := c == ':' || c == '/'
  !(address.chars.takeWhile (!isMark ·)).isEmpty &&
    (address.chars.dropWhile (!isMark ·)).head? == some ':'

/-- The fault of a request that does not say how its address is reached. -/
def unknownWay (address : Address) : Fault :=
  let cs := address.chars
  let shown := if cs.getLast? == some '#' then cs.dropLast else cs
  Fault.simple .value ("unknown url type: " ++ Text.quoted (String.ofList shown))

/-- Checks the addresses of an answer to a request: its own, and the one that the answer names. -/
def checkAddresses (address : Address) (a : Answer) : Except Fault Unit := do
  if !saysHow address then throw (unknownWay address)
  Redirection.check address a

/-- The bytes of the content of an answer to a request, once headers, body and addresses have been
found to be in order.  The addresses come before a body that follows behind the headers, and behind
a body that is at hand. -/
def contentOf (address : Address) (a : Answer) : Except Fault (List UInt8) := do
  match a.badHeader? with
  | some text => throw (Fault.simple .encoding text)
  | none =>
    if a.atHand then
      let content ← a.content
      checkAddresses address a
      return content
    else
      checkAddresses address a
      a.content

variable [Platform]

/-- What an answer to a request says: from status 400 on it is a failure, else it gives the members
of its body. -/
def payloadOf (address : Address) (a : Answer) : Except Raised Members := do
  let content ← (contentOf address a).mapError fun fault => ofRaised (.fault fault)
  if 400 ≤ a.status then
    let text ← (a.text content).mapError .fault
    throw (.failure (Failure.ofStatus a.status text))
  membersOf content

/-- The members that were delivered for a request before its deadline. -/
def payload (r : WireRequest) : Delivery → Except Raised Members
  | .answered a => do
    let address ← r.address.mapError .fault
    payloadOf address a
  | .raised met => .error (ofRaised met)
  | .expired =>
    failed .timeout ("request timeout after " ++ ((r.timeout.map (seconds 1)).getD "") ++ "s")

end Delivery

end Bazaar
