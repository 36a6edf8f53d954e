import Bazaar.Task

/-!
# Scripts

A search service that plays what it was told to: for each request the first route that fits it
delivers its outcomes in order and keeps to the last one.
-/

namespace Bazaar

/-- What a route does with a request: how long it keeps it, and what it delivers then. -/
structure Outcome where
  hang : Option Number := none
  delivery : Delivery

/-- Outcomes for the requests of one index, or of any, whose parameters hold some text. -/
structure Route where
  index : Option String := none
  part : String := ""
  outcomes : List Outcome

namespace Route

/-- Whether a route is meant for a request. -/
def fits (route : Route) (r : WireRequest) : Bool :=
  (match route.index with
   | some index => index == r.index
   | none => true) &&
  Text.occursIn route.part.toList r.params.toList

end Route

/-- The routes of a scripted service, what it does with other requests, whether it was closed, and
what it raises when it is. -/
structure Script where
  routes : List Route := []
  fallback : Outcome
  closed : Bool := false
  closeFault : Option Raised := none

namespace Script

/-- The first outcome and what is left of the outcomes; the last one stays. -/
def nextOutcome (fallback : Outcome) : List Outcome → Outcome × List Outcome
  | [] => (fallback, [])
  | [last] => (last, [last])
  | first :: rest => (first, rest)

/-- Plays one request on routes. -/
def playRoutes (fallback : Outcome) (r : WireRequest) : List Route → Outcome × List Route
  | [] => (fallback, [])
  | route :: rest =>
    if route.fits r then
      let (outcome, left) := nextOutcome fallback route.outcomes
      (outcome, { route with outcomes := left } :: rest)
    else
      let (outcome, left) := playRoutes fallback r rest
      (outcome, route :: left)

/-- Plays one request. -/
def play (s : Script) (r : WireRequest) : Outcome × Script :=
  let (outcome, routes) := playRoutes s.fallback r s.routes
  (outcome, { s with routes := routes })

/-- What a request meets at a closed service. -/
def closedFault : Raised :=
  .fault (Fault.simple .runtime "Cannot send a request, as the client has been closed.")

/-- Closes the service.  Only the first time can go wrong. -/
def close (s : Script) : Option Raised × Script :=
  (if s.closed then none else s.closeFault, { s with closed := true })

end Script

end Bazaar
