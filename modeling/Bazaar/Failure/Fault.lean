import Bazaar.Failure.Basic
import Bazaar.Failure.Class
import Bazaar.Platform
import Bazaar.Text.Ascii

/-!
# Faults of the transport

What can go wrong below a search: a fault that a transport raises, the chain of earlier faults
behind it, and the failure that a search reports for it.  Faults may refer to each other in a
circle, so a chain is a walk through a graph that stops at the first fault it has seen before.
-/

namespace Bazaar

/-- One fault of a graph: whether the name resolver failed, and which faults it names as its cause
and as the one being handled when it arose. -/
structure FaultNode where
  isResolver : Bool
  cause : Option Nat := none
  context : Option Nat := none
  deriving DecidableEq, Repr

namespace FaultNode

/-- The fault behind this one: its cause, or else its context. -/
def next? (node : FaultNode) : Option Nat :=
  node.cause <|> node.context

end FaultNode

/-- Faults that refer to each other by their places in the list. -/
abbrev FaultGraph := List FaultNode

/-- A walk through faults: the places it has seen, the last one first, and the place it comes to
next, if there is one. -/
structure FaultWalk where
  seen : List Nat := []
  current : Option Nat
  deriving DecidableEq, Repr

namespace FaultWalk

/-- One round of a walk that looks for a resolver failure: it goes on behind the fault it came to,
or it ends with whether it has found one.  It ends where there is nothing to come to, and at a place
it has seen before. -/
def round (graph : FaultGraph) (w : FaultWalk) : FaultWalk ⊕ Bool :=
  match w.current with
  | none => .inr false
  | some place =>
    if w.seen.contains place then .inr false
    else
      match graph[place]? with
      | none => .inr false
      | some node =>
        if node.isResolver then .inr true else .inl ⟨place :: w.seen, node.next?⟩

/-- What a walk ends with; nothing if it goes on for more than some rounds. -/
def answer? (graph : FaultGraph) : Nat → FaultWalk → Option Bool
  | 0, _ => none
  | rounds + 1, w =>
    match w.round graph with
    | .inl further => answer? graph rounds further
    | .inr found => some found

end FaultWalk

namespace FaultGraph

/-- Whether a resolver failure stands behind the fault at a place.  No walk goes on for longer than
to see every fault once. -/
def resolverBehind (graph : FaultGraph) (place : Nat) : Bool :=
  (FaultWalk.answer? graph (graph.length + 1) { current := some place }).getD false

end FaultGraph

/-- A fault of the transport; the first place of its graph is the fault itself. -/
structure Fault where
  kind : FaultClass
  detail : String
  graph : FaultGraph
  deriving DecidableEq, Repr

namespace Fault

/-- A fault with nothing behind it. -/
def simple (kind : FaultClass) (detail : String) : Fault :=
  ⟨kind, detail, [⟨kind == .resolver, none, none⟩]⟩

/-- The wording of a fault; a missing key is shown quoted, a resolver failure with its number, and
of a text that had to be ASCII only what is wrong with it. -/
def text (f : Fault) : String :=
  match f.kind with
  | .key => Text.quoted f.detail
  | .resolver => "[Errno -2] " ++ f.detail
  | .encoding => (Text.asciiError f.detail.toList).message
  | _ => f.detail

/-- The parts of a fault as they are listed: the detail, quoted, mostly alone. -/
def parts (f : Fault) : String :=
  match f.kind with
  | .resolver => "-2, " ++ Text.quoted f.detail
  | .encoding => (Text.asciiError f.detail.toList).parts f.detail
  | .assertion => ""
  | _ => Text.quoted f.detail

/-- The class of a fault and its parts. -/
def shown (f : Fault) : String :=
  f.kind.name ++ "(" ++ f.parts ++ ")"

/-- The refusal of what a fault kept from beginning. -/
def refusal (f : Fault) : Refusal :=
  ⟨f.kind, f.text⟩

/-- The class of a fault and its wording. -/
def labelled (f : Fault) : String :=
  f.kind.name ++ ": " ++ f.text

/-- The failure kind of a fault that kept a request from being answered. -/
def failureKind (f : Fault) : FailureKind :=
  if f.kind.isTimeout then .timeout
  else if f.kind == .connect then
    if f.graph.resolverBehind 0 then .dns else .connection
  else if f.kind.isNetwork then .connection
  else .transport

/-- The failure that a search reports for a fault that kept a request from being answered. -/
def classify (f : Fault) : Failure :=
  ⟨f.failureKind, f.labelled, none⟩

/-- The failure that a search reports for a fault of its request, if it is one of the exchange. -/
def toFailure? (f : Fault) : Option Failure :=
  if !f.kind.isExchange then none
  else if f.kind == .decoding then some ⟨.decode, "undecodable response body: " ++ f.text, none⟩
  else some f.classify

end Fault

/-- What a search or a part of it may end with in place of a result. -/
inductive Raised where
  | failure (f : Failure)
  | fault (f : Fault)
  | overflow (o : Overflow)
  deriving DecidableEq, Repr

namespace Raised

/-- The wording. -/
def text : Raised → String
  | .failure f => f.text
  | .fault f => f.text
  | .overflow o => o.message

/-- The class and its detail, quoted. -/
def shown : Raised → String
  | .failure f => "SearchError(" ++ Text.quoted f.message ++ ")"
  | .fault f => f.shown
  | .overflow o => "OverflowError(" ++ Text.quoted o.message ++ ")"

/-- The failure to report: anything that is no failure yet is one of the transport. -/
def toFailure : Raised → Failure
  | .failure f => f
  | r => ⟨.transport, r.shown, none⟩

end Raised

/-- What is raised for a number: one that is too long is a value that does not fit. -/
def NumberFault.raised : NumberFault → Raised
  | .overflow o => .overflow o
  | fault => .fault (Fault.simple .value fault.message)

end Bazaar
