/-!
# Timelines

Events in virtual time.  Time stands still while events are at hand and jumps to the earliest timer
when there are none.  At one time events happen in turns: what an event schedules happens in a
later turn, and timers that have come due join a turn behind the events that are there already.
-/

namespace Bazaar

/-- Events to come.  An event of a turn may have further turns to wait before it happens. -/
structure Timeline (ε : Type) where
  /-- The seconds since the beginning. -/
  now : Float := 0
  /-- What is left of this turn. -/
  turn : List (Nat × ε) := []
  /-- The next turn. -/
  upcoming : List (Nat × ε) := []
  /-- When timers are due, the earliest first. -/
  timers : List (Float × Nat × ε) := []

namespace Timeline

/-- Timers this close to the present count as due. -/
def resolution : Float := 1e-9

/-- Schedules an event for the next turn, or for one that comes some turns later. -/
def soon (t : Timeline ε) (turns : Nat) (e : ε) : Timeline ε :=
  { t with upcoming := t.upcoming ++ [(turns, e)] }

/-- Adds a timer behind all that are due no later. -/
def insertTimer (due : Float) (turns : Nat) (e : ε) :
    List (Float × Nat × ε) → List (Float × Nat × ε)
  | [] => [(due, turns, e)]
  | (d, other) :: rest =>
    if due < d then (due, turns, e) :: (d, other) :: rest
    else (d, other) :: insertTimer due turns e rest

/-- Schedules an event for a time, or for a turn that comes some turns later. -/
def schedule (t : Timeline ε) (due : Float) (turns : Nat) (e : ε) : Timeline ε :=
  { t with timers := insertTimer due turns e t.timers }

/-- Takes events out, wherever they are. -/
def withdraw (t : Timeline ε) (unwanted : ε → Bool) : Timeline ε :=
  { t with
    turn := t.turn.filter fun (_, e) => !unwanted e
    upcoming := t.upcoming.filter fun (_, e) => !unwanted e
    timers := t.timers.filter fun (_, _, e) => !unwanted e }

/-- The time of the next turn: the present if there are events for it, else that of the earliest
timer. -/
def nextTime (t : Timeline ε) : Float :=
  match t.upcoming, t.timers with
  | [], (due, _) :: _ => if t.now < due then due else t.now
  | _, _ => t.now

/-- Begins the next turn. -/
def nextTurn (t : Timeline ε) : Timeline ε :=
  let now := t.nextTime
  let isDue := fun (timer : Float × Nat × ε) =>
    !(now < timer.1) || timer.1 < now + resolution
  { now := now
    turn := t.upcoming ++ (t.timers.takeWhile isDue).map (·.2)
    timers := t.timers.dropWhile isDue }

/-- Takes the first event of this turn; one that has turns to wait is put off. -/
def takeFirst (t : Timeline ε) : Option (Option ε × Timeline ε) :=
  match t.turn with
  | [] => none
  | (0, e) :: rest => some (some e, { t with turn := rest })
  | (turns + 1, e) :: rest => some (none, { t with turn := rest }.soon turns e)

/-- Takes the next event, or puts one off; nothing when no event is left. -/
def next? (t : Timeline ε) : Option (Option ε × Timeline ε) :=
  match t.takeFirst with
  | some taken => some taken
  | none => t.nextTurn.takeFirst

end Timeline

end Bazaar
