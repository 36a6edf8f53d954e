import Bazaar.Platform.Usual
import Bazaar.Proofs.Json.Document
import Bazaar.Proofs.Render.Document

/-!
# Document writers over a run

An ending prints what was taken since the last document as one document, from which it can be read
again: a bare object is a single result, an array holds several.  What nests deeper than the stack
reaches is not taken.  An ending that cannot print prints nothing and leaves what was taken to the
next one: an integer may be too long, the document too deep, or a text may have half of a character.
-/

namespace Bazaar.Render

/-- What a writer is asked for, with so many levels left on the stack: to take something, or to end
a run. -/
inductive Act where
  | write (room : Nat) (o : Output)
  | finish (room : Nat)

/-- The results in a printed document. -/
def payloads : Json → List Json
  | .arr items => items
  | v => [v]

namespace Writer

variable [Platform]

/-! ## Acts -/

/-- What an act does to a writer and what it comes to: the text that it prints, or why it fails.
An act that fails leaves the writer as it was. -/
def act (w : Writer) : Act → Writer × Except Fault String
  | .write room o =>
    match w.write room o with
    | .ok (after, _) => (after, .ok "")
    | .error fault => (w, .error fault)
  | .finish room =>
    match w.finish room with
    | .ok (after, text) => (after, .ok text)
    | .error fault => (w, .error fault)

/-- What the acts of a run come to. -/
def outcomes (w : Writer) : List Act → List (Except Fault String)
  | [] => []
  | a :: acts => (w.act a).2 :: outcomes (w.act a).1 acts

/-! ## What is to be printed -/

/-- Whether a document can be printed: no integer in it is too long, its arrays and objects do not
nest too deep, and no text in it has halves of characters. -/
structure CanPrint (room : Nat) (v : Json) : Prop where
  digits : Platform.Allows v.mostDigits
  levels : v.depth ≤ room
  whole : v.HasWholeTexts

instance (room : Nat) (v : Json) : Decidable (CanPrint room v) :=
  decidable_of_iff (Platform.Allows v.mostDigits ∧ v.depth ≤ room ∧ (v.render none).IsWhole)
    ⟨fun ⟨digits, levels, whole⟩ => ⟨digits, levels, (Json.isWhole_written_iff none 0 v).mp whole⟩,
      fun can => ⟨can.digits, can.levels, (Json.isWhole_written_iff none 0 v).mpr can.whole⟩⟩

/-- Whether an ending can print what was taken; nothing can always be printed. -/
def Prints (room : Nat) (batch : List Output) : Prop :=
  ∀ v ∈ collectedDocument? (batch.map Output.document), CanPrint room v

instance (room : Nat) (batch : List Output) : Decidable (Prints room batch) :=
  inferInstanceAs
    (Decidable (∀ v ∈ collectedDocument? (batch.map Output.document), CanPrint room v))

/-- What an ending prints of some results: nothing for none, a single one bare, several in an
array. -/
def documentText (indent : Option Nat) (batch : List Output) : Phrase :=
  match collectedDocument? (batch.map Output.document) with
  | none => []
  | some v => v.render indent ++ Phrase.ofString "\n"

/-- What has been taken and not been printed after an act, if it was `pending` before. -/
def pendingAfter (pending : List Output) : Act → List Output
  | .write room o => if o.levels ≤ room then pending ++ [o] else pending
  | .finish room => if Prints room pending then [] else pending

/-- The acts of a run, each with what had been taken and not been printed before it. -/
def steps (pending : List Output) : List Act → List (List Output × Act)
  | [] => []
  | a :: acts => (pending, a) :: steps (pendingAfter pending a) acts

/-- What a step prints. -/
def printedBy : List Output × Act → List Output
  | (_, .write ..) => []
  | (pending, .finish room) => if Prints room pending then pending else []

/-- All that a run takes. -/
def taken : List Act → List Output
  | [] => []
  | .write room o :: acts => if o.levels ≤ room then o :: taken acts else taken acts
  | .finish _ :: acts => taken acts

/-- A text is one document and the end of its line, and says what was taken: the document is read
from it again wherever so many levels may lie within each other. -/
def Records (indent : Option Nat) (batch : List Output) (text : String) : Prop :=
  ∃ v : Json, (text : Phrase) = v.render indent ++ Phrase.ofString "\n" ∧
    payloads v = batch.map Output.document ∧
    (∀ room, v.depth ≤ room → Json.readWithin room text = .ok v) ∧
    (v.depth ≤ Platform.jsonLevels → Json.read text = .ok v)

/-- What an act may come to when `pending` has been taken and not been printed. -/
inductive ComesTo (indent : Option Nat) (pending : List Output) : Act → Except Fault String → Prop
  | taken {room : Nat} {o : Output} (levels : o.levels ≤ room) :
    ComesTo indent pending (.write room o) (.ok "")
  | refused {room : Nat} {o : Output} (deep : room < o.levels) :
    ComesTo indent pending (.write room o) (.error .tooDeep)
  | nothing {room : Nat} (empty : pending = []) : ComesTo indent pending (.finish room) (.ok "")
  | printed {room : Nat} {text : String} (some_output : pending ≠ []) (prints : Prints room pending)
    (records : Records indent pending text) : ComesTo indent pending (.finish room) (.ok text)
  | kept {room : Nat} {fault : Fault} (unprintable : ¬Prints room pending) :
    ComesTo indent pending (.finish room) (.error fault)

/-! ## One ending -/

section Finish

variable {indent : Option Nat} {room : Nat} {v : Json} {batch : List Output}

/-- A document that can be printed is printed, and any other is not. -/
theorem print_cases (room : Nat) (indent : Option Nat) (v : Json) :
    (CanPrint room v ∧ ∃ text, print room indent v = .ok text ∧
      (text : Phrase) = v.render indent ++ Phrase.ofString "\n") ∨
    ¬CanPrint room v ∧ ∃ fault, print room indent v = .error fault := by
  unfold print
  cases digits : Platform.checkWriting v.mostDigits with
  | error fault =>
      refine .inr ⟨fun can => ?_, _, rfl⟩
      rw [Platform.checkWriting, (Platform.check_eq_ok_iff _).mpr can.digits] at digits
      cases digits
  | ok _ =>
      have allows := (Platform.check_eq_ok_iff _).mp digits
      by_cases deep : room < v.depth
      · refine .inr ⟨fun can => absurd deep (Nat.not_lt.mpr can.levels),
          .tooDeepToPrint indent.isNone, ?_⟩
        simp [deep, Except.mapError, bind, Except.bind, throw, throwThe, MonadExceptOf.throw]
      · have levels := Nat.not_lt.mp deep
        have whole : (v.render indent ++ Phrase.ofString "\n").IsWhole ↔ v.HasWholeTexts := by
          rw [Phrase.isWhole_append, Json.render, Json.isWhole_written_iff]
          exact and_iff_left (Phrase.isWhole_ofChars _)
        simp only [Except.mapError, deep, if_false, bind, Except.bind]
        cases text : (v.render indent ++ Phrase.ofString "\n").write with
        | ok text' =>
            have same := Phrase.write_eq_ok_iff.mp text
            exact .inl ⟨⟨allows, levels, whole.mp (Phrase.exists_write_iff.mp ⟨_, text⟩)⟩, _, rfl,
              same.symm⟩
        | error e =>
            have halves := (Phrase.write_eq_error_iff.mp text).1
            exact .inr ⟨fun can => halves (whole.mpr can.whole), _, rfl⟩

omit [Platform] in
theorem collectedDocument?_eq_none_iff :
    collectedDocument? (batch.map Output.document) = none ↔ batch = [] := by
  match batch with
  | [] => exact iff_of_true rfl rfl
  | [_] => exact iff_of_false nofun nofun
  | _ :: _ :: _ => exact iff_of_false nofun nofun

theorem prints_nil : Prints room [] :=
  nofun

omit [Platform] in
theorem documentText_eq_nil_iff : documentText indent batch = [] ↔ batch = [] := by
  rw [← collectedDocument?_eq_none_iff, documentText]
  cases collectedDocument? (batch.map Output.document) with
  | none => exact iff_of_true rfl rfl
  | some v => simp [Phrase.ofString]

/-- An ending prints what was taken if that can be printed, and fails otherwise. -/
theorem finish_cases (room : Nat) (indent : Option Nat) (batch : List Output) :
    (Prints room batch ∧ ∃ text,
      (document indent (batch.map Output.document)).finish room = .ok (.document indent [], text) ∧
        (text : Phrase) = documentText indent batch) ∨
    ¬Prints room batch ∧ ∃ fault,
      (document indent (batch.map Output.document)).finish room = .error fault := by
  cases found : collectedDocument? (batch.map Output.document) with
  | none =>
      obtain rfl := collectedDocument?_eq_none_iff.mp found
      exact .inl ⟨prints_nil, "", rfl, rfl⟩
  | some v =>
      have only : Prints room batch ↔ CanPrint room v := by simp [Prints, found]
      have finished : (document indent (batch.map Output.document)).finish room =
          (print room indent v).map fun text => (.document indent [], text) := by
        simp [finish, found]
      rw [only, finished]
      rcases print_cases room indent v with ⟨can, text, printed, written⟩ | ⟨cannot, fault, failed⟩
      · exact .inl ⟨can, text, by rw [printed]; rfl, by rw [written, documentText, found]⟩
      · exact .inr ⟨cannot, fault, by rw [failed]; rfl⟩

omit [Platform] in
/-- Whether a document is bare or an array, its results are those that were collected. -/
theorem payloads_of_collectedDocument? {collected : List Json}
    (objects : ∀ c ∈ collected, ∃ members, c = .obj members)
    (found : collectedDocument? collected = some v) : payloads v = collected := by
  match collected with
  | [] => cases found
  | [single] =>
      cases found
      obtain ⟨members, rfl⟩ := objects v List.mem_cons_self
      rfl
  | first :: second :: rest =>
      cases found
      rfl

omit [Platform] in
theorem isPlain_of_collectedDocument? {collected : List Json}
    (plain : ∀ c ∈ collected, c.IsPlain) (found : collectedDocument? collected = some v) :
    v.IsPlain := by
  match collected with
  | [] => cases found
  | [single] =>
      cases found
      exact plain v List.mem_cons_self
  | first :: second :: rest =>
      cases found
      exact Json.isPlain_arr plain

/-- A printed document says what was collected. -/
theorem records_of_documentText (parsed : ∀ o ∈ batch, o.IsParsed) (some_output : batch ≠ [])
    (prints : Prints room batch) {text : String}
    (written : (text : Phrase) = documentText indent batch) : Records indent batch text := by
  obtain ⟨v, found⟩ :=
    Option.ne_none_iff_exists'.mp (collectedDocument?_eq_none_iff.not.mpr some_output)
  have can := prints v found
  rw [documentText, found] at written
  have plain : v.IsPlain := by
    refine isPlain_of_collectedDocument? (fun c member => ?_) found
    obtain ⟨o, listed, rfl⟩ := List.mem_map.mp member
    exact isPlain_document (parsed o listed)
  have objects : ∀ c ∈ batch.map Output.document, ∃ members, c = .obj members := by
    intro c member
    obtain ⟨o, -, rfl⟩ := List.mem_map.mp member
    exact exists_document_eq_obj o
  have blank : ∀ c ∈ "\n".toList, Json.isSpace c = true := by simp [Json.isSpace]
  refine ⟨v, written, payloads_of_collectedDocument? objects found, ?_, ?_⟩
  · intro room' levels
    rw [written]
    exact Json.readWithin_render plain levels can.digits indent blank
  · exact fun levels => Json.read_render plain levels can.digits written

/-- An act on what was collected comes to what it may come to, and leaves what is pending then. -/
theorem act_document (parsed : ∀ o ∈ batch, o.IsParsed) (a : Act) :
    ((document indent (batch.map Output.document)).act a).1 =
        .document indent ((pendingAfter batch a).map Output.document) ∧
      ComesTo indent batch a ((document indent (batch.map Output.document)).act a).2 := by
  cases a with
  | write room o =>
      by_cases levels : o.levels ≤ room
      · have step : (document indent (batch.map Output.document)).act (.write room o) =
            (.document indent ((batch ++ [o]).map Output.document), .ok "") := by
          simp [act, write, levels]
        rw [step, pendingAfter, if_pos levels]
        exact ⟨rfl, .taken levels⟩
      · have step : (document indent (batch.map Output.document)).act (.write room o) =
            (.document indent (batch.map Output.document), .error .tooDeep) := by
          simp [act, write, levels]
        rw [step, pendingAfter, if_neg levels]
        exact ⟨rfl, .refused (Nat.not_le.mp levels)⟩
  | finish room =>
      rw [pendingAfter]
      rcases finish_cases room indent batch with ⟨prints, text, finished, written⟩ |
        ⟨unprintable, fault, failed⟩
      · have step : (document indent (batch.map Output.document)).act (.finish room) =
            (.document indent [], .ok text) := by
          simp [act, finished]
        rw [step, if_pos prints]
        refine ⟨rfl, ?_⟩
        by_cases empty : batch = []
        · subst empty
          obtain rfl : text = "" := Phrase.ofString_inj.mp written
          exact .nothing rfl
        · exact .printed empty prints (records_of_documentText parsed empty prints written)
      · have step : (document indent (batch.map Output.document)).act (.finish room) =
            (.document indent (batch.map Output.document), .error fault) := by
          simp [act, failed]
        rw [step, if_neg unprintable]
        exact ⟨rfl, .kept unprintable⟩

end Finish

/-! ## Runs -/

/-- Every act of a run comes to what it may come to after the acts before it. -/
theorem outcomes_document {indent : Option Nat} {acts : List Act} {pending : List Output}
    (parsedBefore : ∀ o ∈ pending, o.IsParsed)
    (parsed : ∀ room o, .write room o ∈ acts → o.IsParsed) :
    List.Forall₂ (fun step outcome => ComesTo indent step.1 step.2 outcome) (steps pending acts)
      (outcomes (.document indent (pending.map Output.document)) acts) := by
  induction acts generalizing pending with
  | nil => exact .nil
  | cons a acts ih =>
      obtain ⟨after, comesTo⟩ := @act_document _ indent pending parsedBefore a
      refine .cons comesTo ?_
      rw [after]
      refine ih ?_ fun room o member => parsed room o (List.mem_cons_of_mem a member)
      intro o member
      cases a with
      | write room o' =>
          rw [pendingAfter] at member
          split_ifs at member
          · rcases List.mem_append.mp member with before | new
            · exact parsedBefore o before
            · exact List.mem_singleton.mp new ▸ parsed room o' List.mem_cons_self
          · exact parsedBefore o member
      | finish room =>
          rw [pendingAfter] at member
          split_ifs at member
          · cases member
          · exact parsedBefore o member

/-- Whatever is taken is printed once, or it is left after the run. -/
theorem flatMap_printedBy (pending : List Output) (acts : List Act) :
    (steps pending acts).flatMap printedBy ++ acts.foldl pendingAfter pending =
      pending ++ taken acts := by
  induction acts generalizing pending with
  | nil => simp [steps, taken]
  | cons a acts ih =>
      rw [steps, List.flatMap_cons, List.foldl_cons, List.append_assoc, ih]
      cases a with
      | write room o =>
          by_cases levels : o.levels ≤ room
          · simp [printedBy, pendingAfter, taken, levels]
          · simp [printedBy, pendingAfter, taken, levels]
      | finish room =>
          by_cases prints : Prints room pending
          · simp [printedBy, pendingAfter, taken, prints]
          · simp [printedBy, pendingAfter, taken, prints]

/-- What a run of a document writer comes to, act by act.  Something to write is taken if it does
not nest too deep, and refused otherwise.  An ending prints nothing after nothing was taken; it
prints one document, from which what was taken since the last document is read again, if that can be
printed, and it fails and keeps it otherwise.  So what is taken is printed once and in order, or
left at the end. -/
theorem printed_records (indent : Option Nat) (acts : List Act)
    (parsed : ∀ room o, .write room o ∈ acts → o.IsParsed) :
    List.Forall₂ (fun step outcome => ComesTo indent step.1 step.2 outcome) (steps [] acts)
        (outcomes (.document indent []) acts) ∧
      (steps [] acts).flatMap printedBy ++ acts.foldl pendingAfter [] = taken acts :=
  ⟨outcomes_document (by simp) parsed, flatMap_printedBy [] acts⟩

/-- Any plain object is the object of some text. -/
theorem isParsed_of_isPlain {h : Hit} {kind : HitKind} {raw : Members}
    (plain : (Json.obj raw).IsPlain) (digits : Platform.Allows (Json.obj raw).mostDigits)
    (read : Hit.ofJson kind (.obj raw) = .inr (.ok h)) : h.IsParsed :=
  ⟨_, _, _, kind, raw, Json.readWithin_render plain (Nat.le_refl _) digits none
    (List.forall_mem_nil _), plain.defined, .self, read⟩

/-- A value within so many arrays. -/
def nested : Nat → Json
  | 0 => .null
  | n + 1 => .arr [nested n]

omit [Platform] in
theorem depth_nested (n : Nat) : (nested n).depth = n := by
  induction n with
  | zero => rfl
  | succ n ih => simp [nested, Json.depth, Json.depthOfItems, ih]

omit [Platform] in
theorem isPlain_nested (n : Nat) : (nested n).IsPlain := by
  induction n with
  | zero => exact Json.isPlain_null
  | succ n ih => exact Json.isPlain_arr (by simpa using ih)

theorem allows_mostDigits_nested (n : Nat) : Platform.Allows (nested n).mostDigits := by
  induction n with
  | zero => exact Platform.allows_of_le (by decide)
  | succ n ih => simpa [nested, Json.mostDigits, Json.allows_mostDigitsOfItems_iff] using ih

/-- A hit with an attribute that nests so deep. -/
def nestedHit (n : Nat) : Hit :=
  ⟨Phrase.ofString "7", .generic, [("marks", nested n)]⟩

theorem isParsed_nestedHit (n : Nat) : (nestedHit n).IsParsed := by
  have read : Hit.ofJson .generic (.obj [("objectID", .ofString "7"), ("marks", nested n)]) =
      .inr (.ok (nestedHit n)) := rfl
  apply isParsed_of_isPlain _ _ read
  · exact Json.isPlain_obj (by simp) (by simp [isPlain_nested])
  · have identifier : Platform.Allows (Json.ofString "7").mostDigits :=
      Platform.allows_of_le (by decide)
    rw [Json.mostDigits, Json.allows_mostDigitsOfMembers_iff]
    simp [identifier, allows_mostDigits_nested]

omit [Platform] in
/-- A document with two levels, then one write that is refused and one that is printed alone. -/
theorem printed_records_of_nested :
    letI := Platform.usual
    let acts : List Act := [
      .write Platform.takenLevels (.lookup "shops" [nestedHit 2]),
      .finish Platform.printedLevels,
      .write Platform.takenLevels (.lookup "shops" [nestedHit 700]),
      .write Platform.takenLevels (.health true),
      .finish Platform.printedLevels]
    ∃ first second, outcomes (.document none []) acts =
        [.ok "", .ok first, .error .tooDeep, .ok "", .ok second] ∧
      Records none [.lookup "shops" [nestedHit 2]] first ∧ Records none [.health true] second := by
  let _ := Platform.usual
  intro acts
  have parsed : ∀ room o, .write room o ∈ acts → o.IsParsed := by
    intro room o member
    simp only [acts, List.mem_cons, Act.write.injEq, reduceCtorEq, List.not_mem_nil, false_or,
      or_false] at member
    rcases member with ⟨-, rfl⟩ | ⟨-, rfl⟩ | ⟨-, rfl⟩
    · exact ⟨by simpa [Output.hits] using isParsed_nestedHit 2, by simp⟩
    · exact ⟨by simpa [Output.hits] using isParsed_nestedHit 700, by simp⟩
    · exact ⟨by simp [Output.hits], by simp⟩
  have shallow : (Output.lookup "shops" [nestedHit 2]).levels ≤ Platform.takenLevels := by decide
  have deep : ¬(Output.lookup "shops" [nestedHit 700]).levels ≤ Platform.takenLevels := by
    have levels : (Output.lookup "shops" [nestedHit 700]).levels = 701 := by
      simp [Output.levels, levelsOf, nestedHit, Json.depth, Json.depthOfMembers, depth_nested]
    rw [levels]
    decide
  have prints : Prints Platform.printedLevels [.lookup "shops" [nestedHit 2]] := by decide +kernel
  have after : pendingAfter [] (.write Platform.takenLevels (.lookup "shops" [nestedHit 2])) =
      [.lookup "shops" [nestedHit 2]] := by
    rw [pendingAfter, if_pos shallow, List.nil_append]
  have after' : pendingAfter [.lookup "shops" [nestedHit 2]] (.finish Platform.printedLevels) =
      [] := by
    rw [pendingAfter, if_pos prints]
  have after'' : pendingAfter [] (.write Platform.takenLevels (.lookup "shops" [nestedHit 700])) =
      [] := by
    rw [pendingAfter, if_neg deep]
  have run := (printed_records none acts parsed).1
  simp only [acts, steps, after, after', after'', List.forall₂_cons_left_iff,
    List.forall₂_nil_left_iff] at run
  obtain ⟨_, _, taken, ⟨_, _, printed, ⟨_, _, refused, ⟨_, _, taken', ⟨_, _, printed', rfl, rfl⟩, rfl⟩,
    rfl⟩, rfl⟩, outcomes⟩ := run
  cases taken with
  | refused deep => exact absurd shallow (Nat.not_le.mpr deep)
  | taken _ =>
  cases printed with
  | kept unprintable => exact absurd prints unprintable
  | nothing empty => cases empty
  | printed _ _ records =>
  cases refused with
  | taken levels => exact absurd levels deep
  | refused _ =>
  cases taken' with
  | refused deep' => exact absurd deep' (Nat.not_lt_zero _)
  | taken _ =>
  cases printed' with
  | kept unprintable => exact absurd (by decide +kernel) unprintable
  | nothing empty => cases empty
  | printed _ _ records' => exact ⟨_, _, outcomes, records, records'⟩

end Writer

end Bazaar.Render
