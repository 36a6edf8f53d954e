import Bazaar.Failure.Fault
import Bazaar.Number

/-!
# Retries

How long an attempt may take, whether another one follows, and how long to wait before it.  The
wait doubles from attempt to attempt, is moved up or down by a share of itself, and never exceeds
a cap.
-/

namespace Bazaar

/-- The settings of a retried search. -/
structure RetryPolicy where
  maxAttempts : Int := 3
  delayFactor : Number := .float 0.5
  randomizationFactor : Number := .float 0.1
  maxDelay : Number := .float 2.0
  timeouts : List Number := [.float 3.0, .float 5.0, .float 8.0]

/-- Why settings are refused. -/
inductive RetryFault where
  | attempts
  | noTimeouts
  | timeouts
  | delays
  | randomization
  deriving DecidableEq, Repr

/-- The wording of a refusal. -/
def RetryFault.message : RetryFault → String
  | .attempts => "max_attempts must be positive"
  | .noTimeouts => "timeout_progression must not be empty"
  | .timeouts => "timeout_progression values must be positive"
  | .delays => "delays must be >= 0"
  | .randomization => "randomization_factor must be between 0 and 1"

namespace RetryPolicy

/-- The number zero. -/
def zero : Number := .int 0

/-- The first reason to refuse the settings. -/
def fault? (p : RetryPolicy) : Option RetryFault :=
  if p.maxAttempts ≤ 0 then some .attempts
  else if p.timeouts.isEmpty then some .noTimeouts
  else if p.timeouts.any (·.atMost zero) then some .timeouts
  else if p.delayFactor.below zero || p.maxDelay.below zero then some .delays
  else if !(zero.atMost p.randomizationFactor && p.randomizationFactor.atMost (.int 1)) then
    some .randomization
  else none

/-- The settings themselves if nothing is wrong with them. -/
def checked (p : RetryPolicy) : Except RetryFault RetryPolicy :=
  match p.fault? with
  | some fault => .error fault
  | none => .ok p

/-- How long an attempt may take; attempts are counted from one, and those behind the end of the
list take the last entry. -/
def timeoutFor (p : RetryPolicy) (attempt : Int) : Number :=
  let place := (max attempt 1 - 1).toNat
  p.timeouts.getD (min place (p.timeouts.length - 1)) zero

/-- The wait after an attempt before it is moved and capped. -/
def baseDelay (p : RetryPolicy) (attempt : Int) : Except Overflow Number :=
  p.delayFactor.mul (.int (1 <<< (max attempt 1 - 1).toNat : Nat))

/-- The wait after an attempt, moved by a draw from -1 to 1 and capped. -/
def delayBeforeRetry (p : RetryPolicy) (attempt : Int) (draw : Float) :
    Except Overflow Number := do
  let base ← p.baseDelay attempt
  let spread ← base.mul p.randomizationFactor
  let moved ← base.add (← spread.mul (.float draw))
  return Number.greatest (.float 0.0) (moved.least p.maxDelay)

/-- Whether another attempt follows a failed one. -/
def shouldRetry (p : RetryPolicy) (kind : FailureKind) (attempt : Int) : Bool :=
  attempt < p.maxAttempts && kind.isTransient

end RetryPolicy

/-- Where a retried search stands: the attempts made, the latest error, and when it began. -/
structure RetryState where
  attempt : Nat := 0
  lastError : Option Raised := none
  startedAt : Float := 0

namespace RetryState

/-- The state with one more attempt begun. -/
def beginAttempt (s : RetryState) : RetryState :=
  { s with attempt := s.attempt + 1 }

/-- The state after an attempt ended with an error. -/
def recordFailure (s : RetryState) (error : Raised) : RetryState :=
  { s with lastError := some error }

/-- The seconds since the search began. -/
def elapsed (s : RetryState) (now : Float) : Float :=
  now - s.startedAt

end RetryState

end Bazaar
