import Bazaar.Task

/-!
# The client

One query to one index of the search service: where it goes, the headers it carries, and what its
delivery means.
-/

namespace Bazaar

/-- What a client works with: the base address of the service, the application and the key. -/
structure Client where
  base : Address
  appId : String
  key : String

namespace Client

/-- The usual address of an application. -/
def usualHost (appId : String) : String :=
  "https://" ++ appId ++ "-dsn.algolia.net"

/-- Checks that the text of a header is ASCII. -/
def checkHeader (s : String) : Except Fault Unit :=
  if s.toList.all Text.isAscii then .ok () else .error (Fault.simple .encoding s)

/-- A client of an application, with an address in place of the usual one; an empty one does not
count.  The address is checked before the headers. -/
def create (appId key : String) (host : Option String) : Except Fault Client := do
  let host := (host.filter (!·.isEmpty)).getD (usualHost appId)
  let base ← ((Address.read host.toList).bind Address.asBase).mapError AddressFault.toFault
  checkHeader appId
  checkHeader key
  return ⟨base, appId, key⟩

/-- The headers of every query. -/
def headers (c : Client) : List (String × String) :=
  [("accept", "application/json"), ("content-type", "application/json"),
   ("user-agent", "market-search/0.1 (Python)"), ("x-algolia-api-key", c.key),
   ("x-algolia-application-id", c.appId)]

/-- The address to which queries of an index go; its host is a header too. -/
def address (c : Client) (index : String) : Except Fault Address := do
  let address ← (c.base.below index).mapError AddressFault.toFault
  checkHeader (String.ofList address.hostChars)
  return address

/-- A query to an index. -/
def request (c : Client) (index params : String) (timeout : Option Number) : WireRequest :=
  ⟨c.address index, params, timeout⟩

/-- Sends a query to an index and waits for its members.  A time limit that is no double is an
error before that. -/
def postQuery [Platform] (c : Client) (index params : String) (timeout : Option Number) :
    Task (Except Raised Members) :=
  match timeout.mapM Number.toFloat with
  | .error o => .done (.error (.overflow o))
  | .ok _ =>
    let r := c.request index params timeout
    .exchange r fun d => .done (d.payload r)

/-- How long a check of an index may take. -/
def checkTimeout : Number := .float 5.0

/-- The parameters of a check: one hit of an empty query. -/
def checkParams : String := "query=&hitsPerPage=1"

/-- Checks whether an index answers.  A refused or undecodable query is an answer too. -/
def isReachable [Platform] (c : Client) (index : String) (timeout : Option Number) :
    Task (Except Raised Bool) := do
  match ← c.postQuery index checkParams timeout with
  | .ok _ => return .ok true
  | .error (.failure f) =>
    if f.kind.isTransient then
      .log ⟨.warning, "Search service unreachable: index=" ++ index ++ " error=" ++ f.text⟩
        (pure (.ok false))
    else return .ok true
  | .error r => return .error r

end Client

end Bazaar
