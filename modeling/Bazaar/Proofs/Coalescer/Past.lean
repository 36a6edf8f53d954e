import Bazaar.Proofs.Coalescer.Scene

/-!
# What happened to a field

Submissions and cancellations move the counter of a field on.  Whether a submission is still the
newest move, and what has happened since, is read off everything that happened.
-/

namespace Bazaar.Scene

/-- How often something was submitted or cancelled. -/
def moves (past : List (Happening ω ε α)) : Nat :=
  past.countP Happening.isMove

/-- Whether a submission is the newest move, with what happened since. -/
def Newest (past : List (Happening ω ε α)) (submission : Nat) (work : ω)
    (since : List (Happening ω ε α)) : Prop :=
  ∃ before, past = before ++ .submit work :: since ∧ submission = moves before + 1 ∧
    moves since = 0

/-- Whether a submission is the newest move, and something has not happened since. -/
def Stands (past : List (Happening ω ε α)) (submission : Nat) (work : ω)
    (breach : Happening ω ε α) : Prop :=
  ∃ since, Newest past submission work since ∧ breach ∉ since

theorem moves_cons (x : Happening ω ε α) (rest : List (Happening ω ε α)) :
    moves (x :: rest) = moves rest + if x.isMove then 1 else 0 :=
  List.countP_cons

theorem moves_append (before since : List (Happening ω ε α)) :
    moves (before ++ since) = moves before + moves since :=
  List.countP_append

theorem moves_snoc (past : List (Happening ω ε α)) (x : Happening ω ε α) :
    moves (past ++ [x]) = moves past + if x.isMove then 1 else 0 := by
  rw [moves_append, moves_cons, show moves [] = 0 from rfl, Nat.zero_add]

theorem still_cons {x : Happening ω ε α} {rest : List (Happening ω ε α)}
    (still : moves (x :: rest) = 0) : x.isMove = false ∧ moves rest = 0 := by
  rw [moves_cons, Nat.add_eq_zero_iff] at still
  exact ⟨by simpa using still.2, still.1⟩

theorem count_move {x : Happening ω ε α} (isMove : x.isMove = true) (count : Nat)
    (rest : List (Happening ω ε α)) :
    count + moves (x :: rest) + 1 = count + 1 + moves rest + 1 := by
  rw [moves_cons, if_pos isMove]
  omega

namespace Newest

variable {past since : List (Happening ω ε α)} {g : Nat} {work : ω} {x : Happening ω ε α}

theorem eq_moves (newest : Newest past g work since) : g = moves past := by
  obtain ⟨before, rfl, rfl, still⟩ := newest
  rw [moves_append, moves_cons, still]
  rfl

theorem submit (past : List (Happening ω ε α)) (work : ω) :
    Newest (past ++ [.submit work]) (moves past + 1) work [] :=
  ⟨past, rfl, rfl, rfl⟩

theorem snoc (newest : Newest past g work since) (still : x.isMove = false) :
    Newest (past ++ [x]) g work (since ++ [x]) := by
  obtain ⟨before, rfl, count, none_since⟩ := newest
  refine ⟨before, by simp, count, ?_⟩
  rw [moves_snoc, none_since, still]
  rfl

/-- The newest move is the last thing that happened, or it was the newest before. -/
theorem of_snoc (newest : Newest (past ++ [x]) g work since) :
    (x = .submit work ∧ since = []) ∨
      ∃ earlier, since = earlier ++ [x] ∧ x.isMove = false ∧ Newest past g work earlier := by
  obtain ⟨before, split, count, still⟩ := newest
  rcases List.eq_nil_or_concat since with rfl | ⟨earlier, last, rfl⟩
  · obtain ⟨-, sameLast⟩ := List.append_inj' split rfl
    exact .inl ⟨by simpa using sameLast, rfl⟩
  · rw [List.concat_eq_append, ← List.cons_append, ← List.append_assoc] at split
    obtain ⟨rfl, sameLast⟩ := List.append_inj' split rfl
    obtain rfl : x = last := by simpa using sameLast
    rw [List.concat_eq_append, moves_snoc] at still
    have notMove : x.isMove = false := by
      cases isMove : x.isMove with
      | false => rfl
      | true => simp [isMove] at still
    exact .inr ⟨earlier, by simp, notMove, before, rfl, count, by omega⟩

theorem not_snoc_cancel : ¬Newest (past ++ [.cancel]) g work since := by
  intro newest
  rcases newest.of_snoc with ⟨impossible, -⟩ | ⟨-, -, impossible, -⟩
  · cases impossible
  · cases impossible

end Newest

namespace Stands

variable {past : List (Happening ω ε α)} {g : Nat} {work : ω} {x breach : Happening ω ε α}

theorem eq_moves (stands : Stands past g work breach) : g = moves past := by
  obtain ⟨since, newest, -⟩ := stands
  exact newest.eq_moves

theorem not_nil : ¬Stands ([] : List (Happening ω ε α)) g work breach := by
  rintro ⟨since, ⟨before, split, -⟩, -⟩
  simp at split

theorem submit_iff {new : ω} :
    Stands (past ++ [.submit new]) g work breach ↔ g = moves past + 1 ∧ work = new := by
  constructor
  · rintro ⟨since, newest, -⟩
    rcases newest.of_snoc with ⟨same, -⟩ | ⟨-, -, impossible, -⟩
    · refine ⟨?_, by cases same; rfl⟩
      rw [newest.eq_moves, moves_snoc]
      rfl
    · cases impossible
  · rintro ⟨rfl, rfl⟩
    exact ⟨[], .submit past work, List.not_mem_nil⟩

theorem not_cancel : ¬Stands (past ++ [.cancel]) g work breach := by
  rintro ⟨since, newest, -⟩
  exact Newest.not_snoc_cancel newest

theorem not_breach (still : breach.isMove = false) :
    ¬Stands (past ++ [breach]) g work breach := by
  rintro ⟨since, newest, absent⟩
  rcases newest.of_snoc with ⟨rfl, -⟩ | ⟨earlier, rfl, -, -⟩
  · cases still
  · simp at absent

theorem snoc_iff (still : x.isMove = false) (differs : x ≠ breach) :
    Stands (past ++ [x]) g work breach ↔ Stands past g work breach := by
  constructor
  · rintro ⟨since, newest, absent⟩
    rcases newest.of_snoc with ⟨rfl, -⟩ | ⟨earlier, rfl, -, before⟩
    · cases still
    · exact ⟨earlier, before, fun present => absent (List.mem_append_left _ present)⟩
  · rintro ⟨since, newest, absent⟩
    refine ⟨since ++ [x], newest.snoc still, ?_⟩
    rw [List.mem_append, List.mem_singleton, not_or]
    exact ⟨absent, Ne.symm differs⟩

end Stands

end Bazaar.Scene
