import Bazaar.Simulation.Timeline

/-!
# What a timeline holds

The events to come, whatever turn or time they wait for.  Scheduling adds one, withdrawing leaves
the others, and what happens next is taken from among them.
-/

namespace Bazaar.Timeline

variable {ε : Type}

/-- The events to come. -/
def events (t : Timeline ε) : List ε :=
  t.turn.map (·.2) ++ t.upcoming.map (·.2) ++ t.timers.map (·.2.2)

theorem insertTimer_perm (due : Float) (turns : Nat) (e : ε)
    (timers : List (Float × Nat × ε)) :
    (insertTimer due turns e timers).Perm ((due, turns, e) :: timers) := by
  induction timers with
  | nil => exact .refl _
  | cons timer timers ih =>
      rw [insertTimer]
      split
      · exact .refl _
      · exact (ih.cons timer).trans (.swap _ _ _)

theorem events_schedule (t : Timeline ε) (due : Float) (turns : Nat) (e : ε) :
    (t.schedule due turns e).events.Perm (e :: t.events) := by
  have timers := (insertTimer_perm due turns e t.timers).map fun timer => timer.2.2
  exact (timers.append_left _).trans List.perm_middle

theorem events_soon (t : Timeline ε) (turns : Nat) (e : ε) :
    (t.soon turns e).events.Perm (e :: t.events) := by
  unfold events soon
  simp only [List.map_append, List.map_cons, List.map_nil, List.append_assoc,
    List.singleton_append]
  rw [← List.append_assoc, ← List.append_assoc]
  exact List.perm_middle

theorem events_withdraw (t : Timeline ε) (unwanted : ε → Bool) :
    (t.withdraw unwanted).events = t.events.filter (!unwanted ·) := by
  simp only [events, withdraw, List.filter_append, List.filter_map]
  rfl

/-- The first event of a turn is taken out, or put off. -/
theorem takeFirst_events {t t' : Timeline ε} {e? : Option ε}
    (taken : t.takeFirst = some (e?, t')) : t.events.Perm (e?.toList ++ t'.events) := by
  obtain ⟨now, turn, upcoming, timers⟩ := t
  unfold takeFirst at taken
  split at taken
  · cases taken
  · rename_i same
    cases taken
    simp only at same
    subst same
    exact .refl _
  · rename_i e rest same
    cases taken
    simp only at same
    subst same
    exact (events_soon ⟨now, rest, upcoming, timers⟩ _ e).symm

theorem nextTurn_events {t : Timeline ε} (ended : t.turn = []) : t.nextTurn.events = t.events := by
  have split (isDue : Float × Nat × ε → Bool) :
      (t.timers.takeWhile isDue).map (·.2.2) ++ (t.timers.dropWhile isDue).map (·.2.2) =
        t.timers.map (·.2.2) := by
    rw [← List.map_append, List.takeWhile_append_dropWhile]
  simp only [events, nextTurn, ended, List.map_append, List.map_nil, List.nil_append,
    List.append_nil, List.append_assoc, List.map_map]
  rw [← split]
  rfl

/-- What happens next is taken from the events to come; nothing else is lost. -/
theorem next?_events {t t' : Timeline ε} {e? : Option ε} (next : t.next? = some (e?, t')) :
    t.events.Perm (e?.toList ++ t'.events) := by
  unfold next? at next
  split at next
  · rename_i taken
    cases next
    exact takeFirst_events taken
  · rename_i ended
    have noTurn : t.turn = [] := by
      unfold takeFirst at ended
      split at ended
      · assumption
      · cases ended
      · cases ended
    rw [← nextTurn_events noTurn]
    exact takeFirst_events next

end Bazaar.Timeline
