import Bazaar.Number
import Bazaar.Transport.Address.Basic

/-!
# Requests on their way

One query to one index as it leaves for the search service, and the address to which it goes: that
of the index below the base address of the service.
-/

namespace Bazaar

namespace Address

/-- The address with a slash behind its path and query, so that more can follow. -/
def asBase (a : Address) : Except AddressFault Address :=
  if a.pathAndQuery.getLast? == some '/' then .ok a
  else a.withPathAndQuery (a.pathAndQuery ++ ['/'])

/-- The path to which queries of an index go. -/
def indexPath (index : String) : List Char :=
  "/1/indexes/".toList ++ Percent.encodeChars index.toList ++ "/query".toList

/-- The address below a base address to which queries of an index go.  A base with a query goes on
in its query. -/
def below (base : Address) (index : String) : Except AddressFault Address := do
  let place ← read (indexPath index)
  base.withPathAndQuery (base.pathAndQuery ++ place.pathAndQuery.drop 1)

/-- The index to which an address leads: the part before the last slash, decoded. -/
def index (a : Address) : String :=
  match (Text.splitAt '/' a.pathAndQuery).reverse with
  | _ :: index :: _ => Percent.decode (String.ofList index)
  | _ => ""

end Address

/-- A request on its way: where it goes, unless that is no address, its parameters, and how long it
may take, unless it may take as long as it likes. -/
structure WireRequest where
  address : Except Fault Address
  params : String
  timeout : Option Number

namespace WireRequest

/-- The text of the address to which a request goes. -/
def url (r : WireRequest) : String :=
  match r.address with
  | .ok address => address.text
  | .error _ => ""

/-- The index for which a request is meant. -/
def index (r : WireRequest) : String :=
  match r.address with
  | .ok address => address.index
  | .error _ => ""

end WireRequest

end Bazaar
