import Bazaar.Log
import Bazaar.Transport.Delivery

/-!
# Tasks

A search as a description of what it does: it reports, draws a number, asks for the time, waits, and
exchanges a request for a delivery, and each step depends on what came before.  A task says nothing
about what other tasks do meanwhile; that is for whoever runs it.
-/

namespace Bazaar

/-- A description of what a search does. -/
inductive Task (α : Type) where
  | done (a : α)
  | log (entry : LogEntry) (next : Task α)
  | draw (next : Float → Task α)
  | clock (next : Float → Task α)
  | sleep (seconds : Number) (next : Task α)
  | exchange (request : WireRequest) (next : Delivery → Task α)

namespace Task

/-- One task after another. -/
def bind (t : Task α) (f : α → Task β) : Task β :=
  match t with
  | .done a => f a
  | .log entry next => .log entry (bind next f)
  | .draw next => .draw fun x => bind (next x) f
  | .clock next => .clock fun x => bind (next x) f
  | .sleep seconds next => .sleep seconds (bind next f)
  | .exchange request next => .exchange request fun d => bind (next d) f

instance : Monad Task where
  pure := .done
  bind := bind

/-- A task with its result changed. -/
def map (f : α → β) (t : Task α) : Task β :=
  t.bind fun a => .done (f a)

/-- Reports entries in order before a task. -/
def logAll (entries : List LogEntry) (next : Task α) : Task α :=
  entries.foldr .log next

end Task

end Bazaar
