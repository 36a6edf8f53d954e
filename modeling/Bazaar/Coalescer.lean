import Bazaar.Failure.Fault
import Bazaar.Log

/-!
# Coalescing

One field into which a person types: each submission takes the place of the one before, and only
the latest runs after a quiet period.  A counter goes up with every submission and every
cancellation; a timer and a run count only while the counter still has their number.
-/

namespace Bazaar

/-- Where the result of a submission stands. -/
inductive Promise (ρ : Type) where
  | pending
  | resolved (r : ρ)
  | abandoned

/-- The state of one field: the counter, the number of the timer that it holds, and the promises by
the numbers of their submissions, in order. -/
structure Coalescer (ρ : Type) where
  generation : Nat := 0
  armed : Option Nat := none
  promises : List (Nat × Promise ρ) := []

namespace Coalescer

/-- Whether a timer is armed. -/
def pending (c : Coalescer ρ) : Bool :=
  c.armed.isSome

/-- Takes a submission in; its number is the counter afterwards. -/
def submit (c : Coalescer ρ) : Coalescer ρ :=
  let g := c.generation + 1
  ⟨g, some g, c.promises ++ [(g, .pending)]⟩

/-- Disarms the timer and makes every run in flight out of date. -/
def cancel (c : Coalescer ρ) : Coalescer ρ :=
  { c with generation := c.generation + 1, armed := none }

/-- Lets the timer of a submission fire.  The run starts only if nothing has happened since. -/
def fire? (c : Coalescer ρ) (submission : Nat) : Option (Coalescer ρ) :=
  if submission = c.generation then some { c with armed := none } else none

/-- Where the result of a submission stands. -/
def promise? (c : Coalescer ρ) (submission : Nat) : Option (Promise ρ) :=
  c.promises.lookup submission

/-- Sets where the result of a submission stands. -/
def setPromise (c : Coalescer ρ) (submission : Nat) (p : Promise ρ) : Coalescer ρ :=
  { c with
    promises := c.promises.map fun (g, old) => if g = submission then (g, p) else (g, old) }

/-- Whether the result of a submission is still awaited. -/
def isAwaited (c : Coalescer ρ) (submission : Nat) : Bool :=
  match c.promise? submission with
  | some .pending => true
  | _ => false

/-- The caller of a submission stops waiting. -/
def giveUp (c : Coalescer ρ) (submission : Nat) : Coalescer ρ :=
  if c.isAwaited submission then c.setPromise submission .abandoned else c

/-- A run ends with a value: it is delivered if it is the latest and still awaited. -/
def finish (c : Coalescer ρ) (submission : Nat) (r : ρ) : Coalescer ρ × List LogEntry :=
  if submission = c.generation then
    (if c.isAwaited submission then c.setPromise submission (.resolved r) else c, [])
  else
    (c, [⟨.debug, "Discarded result of superseded intent " ++ toString submission ++
      " (latest " ++ toString c.generation ++ ")"⟩])

/-- A run ends with an error, worded as given: it is delivered if it is the latest and still
awaited, and reported otherwise. -/
def fail (c : Coalescer ρ) (submission : Nat) (r : ρ) (wording : String) :
    Coalescer ρ × List LogEntry :=
  if submission = c.generation && c.isAwaited submission then
    (c.setPromise submission (.resolved r), [])
  else
    (c, [⟨.debug, "Discarded failure of superseded intent " ++ toString submission ++ ": " ++
      wording⟩])

/-- A run ends. -/
def settle (wording : ε → String) (c : Coalescer (Except ε α)) (submission : Nat)
    (outcome : Except ε α) : Coalescer (Except ε α) × List LogEntry :=
  match outcome with
  | .ok _ => c.finish submission outcome
  | .error e => c.fail submission outcome (wording e)

end Coalescer

/-- Why a field cannot be set up. -/
inductive QuietPeriodFault where
  | negative
  deriving DecidableEq, Repr

/-- The wording of a refusal. -/
def QuietPeriodFault.message : QuietPeriodFault → String
  | .negative => "delay must be >= 0"

/-- A quiet period that is not negative. -/
def checkQuietPeriod (delay : Number) : Except QuietPeriodFault Number :=
  if delay.below (.int 0) then .error .negative else .ok delay

end Bazaar
