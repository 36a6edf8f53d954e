import Bazaar.Command.Run
import Bazaar.Platform.Usual
import Bazaar.Proofs.Render.Writer
import Bazaar.Proofs.Simulation.Outside

/-!
# Runs from their first line to their document

A run closes the service once if it has set one up, and not at all otherwise.  It ends with the flag
of its operation and prints the document of all that the operation wrote, or it is aborted and
prints nothing.  What closing comes to decides neither.
-/

namespace Bazaar

namespace Render.Writer

/-- A writer after it was asked to take some results, one after another; one that it refuses leaves
it as it was. -/
def takeAll (room : Nat) (w : Writer) (outputs : List Output) : Writer :=
  outputs.foldl (fun w o =>
    match w.write room o with
    | .ok (after, _) => after
    | .error _ => w) w

/-- The results that are shallow enough to be taken. -/
def takenOf (room : Nat) (outputs : List Output) : List Output :=
  outputs.filter fun o => decide (o.levels ≤ room)

/-- A document writer collects what it takes, in order. -/
theorem takeAll_document (room : Nat) (indent : Option Nat) (collected : List Json)
    (outputs : List Output) :
    takeAll room (.document indent collected) outputs =
      .document indent (collected ++ (takenOf room outputs).map Output.document) := by
  induction outputs generalizing collected with
  | nil => simp [takeAll, takenOf]
  | cons o outputs ih =>
      by_cases levels : o.levels ≤ room
      · have rest := ih (collected ++ [o.document])
        rw [List.append_assoc, List.singleton_append] at rest
        simpa [takeAll, takenOf, write, levels] using rest
      · simpa [takeAll, takenOf, write, levels] using ih collected

theorem ofFormat_ne_ok {format : String} (unknown : format ∉ formats) (w : Writer) :
    ofFormat format ≠ .ok w := by
  obtain ⟨noConsole, noDocument⟩ : format ≠ "console" ∧ format ≠ "json" := by
    simpa [formats] using unknown
  rw [ofFormat, if_neg (by simpa using noConsole), if_neg (by simpa using noDocument)]
  nofun

end Render.Writer

namespace Simulation

variable {α : Type}

/-- Whether a text can be printed. -/
def Prints (s : Simulation α) (text : String) : Prop :=
  text = "" ∨ s.printFault = none

theorem print_of_prints {s : Simulation α} {text : String} (prints : s.Prints text) :
    s.print text = .ok text := by
  rcases prints with rfl | well
  · rfl
  · rw [print, well]
    split
    · rename_i empty
      rw [String.isEmpty_iff.mp empty]
    · rfl

/-- A text that cannot be printed is not printed in part. -/
theorem exists_print_eq_error {s : Simulation α} {text : String} (fails : ¬s.Prints text) :
    ∃ message, s.print text = .error message := by
  obtain ⟨filled, faulty⟩ := not_or.mp fails
  obtain ⟨message, fault⟩ := Option.ne_none_iff_exists'.mp faulty
  refine ⟨message, ?_⟩
  rw [print, if_neg (by rwa [String.isEmpty_iff]), fault]

end Simulation

namespace Run

open Render (Output Writer)
open Render.Writer (Prints documentText takenOf)

/-! ## Parts of a run -/

/-- An operation asks the document writer that a run gives it to take some results, one after
another, and ends with a flag or with the wording of an error; `after` is the simulation that it
leaves behind. -/
def Ends [Platform] (operation : Operation) (service : Service) (b : Backend) (s : Simulation Reply)
    (outputs : List Output) (outcome : Except String Bool) (after : Simulation Reply) : Prop :=
  operation service b (.document (some 2) []) s =
    (outcome, Writer.takeAll Platform.takenLevels (.document (some 2) []) outputs, after)

/-- A run that gives no flag and prints nothing. -/
structure IsAborted (r : Run) : Prop where
  succeeded : r.succeeded = none
  printed : r.printed = ""

theorem isAborted_aborted (action message : String) (s : Simulation Reply) :
    (aborted action message s).IsAborted :=
  ⟨rfl, rfl⟩

theorem close_eq (b : Backend) (s : Simulation Reply) :
    close b s = match s.script.close.1 with
      | none => s.close.2
      | some raised => s.close.2.report (Service.closeEntry b.name raised) := by
  rw [close, show s.close = (s.script.close.1, s.close.2) from rfl]
  cases s.script.close.1 <;> rfl

/-- Closing is counted, whether it goes well or not. -/
theorem closings_close (b : Backend) (s : Simulation Reply) :
    (close b s).transcript.closings = s.transcript.closings + 1 := by
  rw [close_eq]
  cases s.script.close.1 <;> rfl

/-- Whatever closing comes to, the same can be printed as before. -/
theorem print_close (b : Backend) (s : Simulation Reply) (text : String) :
    (close b s).print text = s.print text := by
  rw [close_eq]
  cases s.script.close.1 <;> rfl

/-! ## Whole runs -/

section Whole

variable [Platform] (settings : Config.Settings) (action format : String) (operation : Operation)
  (s : Simulation Reply)

/-- Without a writer or without a service nothing begins, so nothing is closed. -/
theorem aborted_of_nothing_begun
    (lacks : (∀ writer, Writer.ofFormat format ≠ .ok writer) ∨
      ∀ created, settings.setUp ≠ .ok created) :
    (ofOperation settings action format operation s).IsAborted ∧
      (ofOperation settings action format operation s).simulation.transcript.closings =
        s.transcript.closings := by
  unfold ofOperation
  cases there : Writer.ofFormat format with
  | error fault => exact ⟨isAborted_aborted _ _ _, rfl⟩
  | ok writer =>
      have noService := lacks.resolve_left fun noWriter => noWriter writer there
      dsimp only
      unfold operate
      cases created : settings.setUp with
      | error refusal => exact ⟨isAborted_aborted _ _ _, rfl⟩
      | ok both => exact absurd created (noService both)

variable {settings format operation s} {engine : Engine} {service : Service}
  {outputs : List Output} {outcome : Except String Bool} {after : Simulation Reply}

/-- Whether a run can print the document of what its writer took. -/
def CanConclude (taken : List Output) (after : Simulation Reply) : Prop :=
  Prints Platform.printedLevels taken ∧ (taken = [] ∨ after.printFault = none)

/-- What a run with a service comes to after its operation: it has closed the service once more, and
what closing came to decides nothing of the rest. -/
structure Concludes (taken : List Output) (outcome : Except String Bool)
    (after : Simulation Reply) (r : Run) : Prop where
  closings : r.simulation.transcript.closings = after.transcript.closings + 1
  succeeded : ∀ flag, r.succeeded = some flag ↔
    outcome = .ok flag ∧ CanConclude taken after
  whole : r.succeeded ≠ none → (r.printed : Phrase) = documentText (some 2) taken
  nothing : r.succeeded = none → r.printed = ""

theorem concludes_of_isAborted {r : Run}
    (closings : r.simulation.transcript.closings = after.transcript.closings + 1)
    (aborted : r.IsAborted)
    (fails : ∀ flag, ¬(outcome = .ok flag ∧ CanConclude outputs after)) :
    Concludes outputs outcome after r where
  closings := closings
  succeeded flag := by
    rw [aborted.succeeded]
    exact iff_of_false nofun (fails flag)
  whole given := absurd aborted.succeeded given
  nothing _ := aborted.printed

/-- A run with a document writer whose service is set up ends with its operation, unless the
document cannot be printed. -/
theorem concludes_of_ends (created : settings.setUp = .ok (engine, service))
    (ends : Ends operation service engine.backend s outputs outcome after) :
    Concludes (takenOf Platform.takenLevels outputs) outcome after
      (ofOperation settings action "json" operation s) := by
  have counted := closings_close engine.backend after
  have hasWriter : Writer.ofFormat "json" = .ok (.document (some 2) []) := rfl
  rw [Ends, Writer.takeAll_document, List.nil_append] at ends
  simp only [ofOperation, hasWriter, operate, created, ends]
  set taken := takenOf Platform.takenLevels outputs
  cases outcome with
  | error message =>
      apply concludes_of_isAborted counted (isAborted_aborted _ _ _)
      rintro flag ⟨⟨⟩, -⟩
  | ok flag =>
      rcases Writer.finish_cases Platform.printedLevels (some 2) taken with
        ⟨can, text, finished, written⟩ | ⟨cannot, fault, failed⟩
      · have printable : after.Prints text ↔ taken = [] ∨ after.printFault = none := by
          rw [Simulation.Prints, ← @Writer.documentText_eq_nil_iff (some 2), ← written]
          exact or_congr_left Phrase.ofString_inj.symm
        simp only [finished, print_close]
        by_cases prints : after.Prints text
        · rw [Simulation.print_of_prints prints]
          refine ⟨counted, fun flag' => ?_, fun _ => written, nofun⟩
          show some flag = some flag' ↔ _
          rw [Option.some.injEq, Except.ok.injEq, and_iff_left ⟨can, printable.mp prints⟩]
        · obtain ⟨message, refused⟩ := Simulation.exists_print_eq_error prints
          rw [refused]
          exact concludes_of_isAborted counted (isAborted_aborted _ _ _)
            fun _ both => prints (printable.mpr both.2.2)
      · simp only [failed]
        exact concludes_of_isAborted counted (isAborted_aborted _ _ _)
          fun _ both => cannot both.2.1

/-- What follows an operation is settled by what it wrote, by how it ended and by what printing
comes to. -/
theorem Concludes.congr {after' : Simulation Reply} {r r' : Run}
    (concludes : Concludes outputs outcome after r) (other : Concludes outputs outcome after' r')
    (alike : after'.printFault = after.printFault) :
    r'.succeeded = r.succeeded ∧ r'.printed = r.printed := by
  have same : r'.succeeded = r.succeeded := by
    apply Option.ext
    intro flag
    rw [other.succeeded, concludes.succeeded, CanConclude, CanConclude, alike]
  refine ⟨same, ?_⟩
  by_cases none : r.succeeded = none
  · rw [concludes.nothing none, other.nothing (same.trans none)]
  · rw [← Phrase.ofString_inj, concludes.whole none,
      other.whole fun none' => none (same.symm.trans none')]

end Whole

variable [Platform]

/-- A run without a writer or without a service is aborted, prints nothing and closes nothing.  Any
other run of an operation with a document writer closes the service once, behind whatever the
operation did; it gives the flag of its operation exactly when that ended with one and the document
of all that the writer took can be printed, and prints the whole document then, but nothing
otherwise, whatever was written before.  Two runs whose operations write the same, end alike and can
print alike give and print the same, whatever closing comes to in either. -/
theorem closes_once_and_prints_all_or_nothing (settings : Config.Settings) (action format : String)
    (operation : Operation) (s : Simulation Reply) :
    let r := ofOperation settings action format operation s
    ((format ∉ Writer.formats ∨ ∃ refusal, settings.setUp = .error refusal) →
      r.IsAborted ∧ r.simulation.transcript.closings = s.transcript.closings) ∧
    ∀ engine service outputs outcome after, format = "json" →
      settings.setUp = .ok (engine, service) →
      Ends operation service engine.backend s outputs outcome after →
      Concludes (takenOf Platform.takenLevels outputs) outcome after r ∧
      ∀ operation' s' after', Ends operation' service engine.backend s' outputs outcome after' →
        after'.printFault = after.printFault →
        let r' := ofOperation settings action format operation' s'
        r'.succeeded = r.succeeded ∧ r'.printed = r.printed := by
  intro r
  constructor
  · intro lacks
    apply aborted_of_nothing_begun
    refine lacks.imp Writer.ofFormat_ne_ok ?_
    rintro ⟨refusal, refused⟩ created made
    rw [refused] at made
    cases made
  · rintro engine service outputs outcome after rfl created ends
    have concludes := concludes_of_ends action created ends
    refine ⟨concludes, fun operation' s' after' ends' alike => ?_⟩
    exact concludes.congr (concludes_of_ends action created ends') alike

omit [Platform] in
/-- A service that cannot be closed well; one operation writes before it raises, another one before
it gives a flag. -/
theorem closes_once_and_prints_all_or_nothing_of_health :
    letI := Platform.usual
    let env : Config.Environment := [("KEY", "K")]
    let root : Mapping := [
      (.str "log", .map [(.str "level", .str "INFO")]),
      (.str "algolia", .map [(.str "api_key_env", .str "KEY"), (.str "app_id", .str "A")]),
      (.str "search", .map [(.str "fan_out_indices", .list [.str "shops"]),
        (.str "health_indices", .list [.str "shops"])]),
      (.str "indices", .map [(.str "shops", .map [(.str "kind", .str "shop")])])]
    let writes (outcome : Except String Bool) : Operation := fun _ _ writer s =>
      (outcome, writer.takeAll Platform.takenLevels [.health true], s)
    let fails := writes (.error "broken")
    let works := writes (.ok false)
    let script : Script := {
      fallback := { delivery := .expired }
      closeFault := some (.fault (Fault.simple .runtime "broken pipe")) }
    let s : Simulation Reply := { script := script }
    let run (settings : Config.Settings) (format : String) (operation : Operation) : Run :=
      ofOperation settings "health" format operation s
    ∃ settings, Config.read env root = .ok settings ∧
      (run settings "xml" works).IsAborted ∧
      (run settings "json" fails).IsAborted ∧
      (run settings "json" fails).simulation.transcript.closings = 1 ∧
      (run settings "json" works).succeeded = some false ∧
      (run settings "json" works).printed = "\x7b\n  \"healthy\": true\n\x7d\n" ∧
      (run settings "json" works).simulation.transcript.closings = 1 := by
  let _ := Platform.usual
  intro env root writes fails works script s run
  have evaluated : ((Config.read env root).toOption.any (·.setUp.toOption.isSome)) = true := by
    decide +kernel
  cases accepted : Config.read env root with
  | error fault =>
      rw [accepted] at evaluated
      cases evaluated
  | ok settings =>
      rw [accepted] at evaluated
      replace evaluated : settings.setUp.toOption.isSome = true := evaluated
      cases made : settings.setUp with
      | error refusal =>
          rw [made] at evaluated
          cases evaluated
      | ok pair =>
          obtain ⟨engine, service⟩ := pair
          have unknown := (closes_once_and_prints_all_or_nothing settings "health" "xml" works s).1
            (.inl (by decide))
          have failed := ((closes_once_and_prints_all_or_nothing settings "health" "json" fails s).2
            engine service [.health true] (.error "broken") s rfl made rfl).1
          have worked := ((closes_once_and_prints_all_or_nothing settings "health" "json" works s).2
            engine service [.health true] (.ok false) s rfl made rfl).1
          have noFlag : (run settings "json" fails).succeeded = none :=
            Option.eq_none_iff_forall_ne_some.mpr fun flag given =>
              nomatch ((failed.succeeded flag).mp given).1
          have flag : (run settings "json" works).succeeded = some false :=
            (worked.succeeded false).mpr ⟨rfl, by decide +kernel, .inr rfl⟩
          have document : documentText (some 2) (takenOf Platform.takenLevels [.health true]) =
              Phrase.ofString "\x7b\n  \"healthy\": true\n\x7d\n" := by decide +kernel
          refine ⟨settings, rfl, unknown.1, ⟨noFlag, failed.nothing noFlag⟩, failed.closings, flag,
            ?_, worked.closings⟩
          rw [← Phrase.ofString_inj, ← document]
          apply worked.whole
          rw [show (ofOperation settings "health" "json" works s).succeeded = _ from flag]
          nofun

/-! ## Runs of commands -/

/-- A command asks for at most one result to be taken; it leaves closing to the run. -/
theorem exists_ends_operation (c : Command) (service : Service) (b : Backend)
    (s : Simulation Reply) : ∃ outputs outcome after,
      Ends (operation c) service b s outputs outcome after ∧ after.outside = s.outside := by
  simp only [Ends, operation]
  cases planned : c.plan service with
  | error fault => exact ⟨[], _, _, rfl, s.outside_reportAll _⟩
  | ok plan =>
      have carried := (s.reportAll c.before).outside_carryOut b plan
      rw [Simulation.outside_reportAll] at carried
      dsimp only
      split
      · rename_i raised s' same
        rw [same] at carried
        exact ⟨[], _, _, rfl, carried⟩
      · rename_i ended s' same
        rw [same] at carried
        by_cases levels : ended.output.levels ≤ Platform.takenLevels
        · refine ⟨[ended.output], .ok ended.succeeded, (s'.reportAll []).reportAll ended.after, ?_, ?_⟩
          · simp [Writer.takeAll, Writer.write, levels]
          · rw [Simulation.outside_reportAll, Simulation.outside_reportAll]
            exact carried
        · refine ⟨[ended.output], .error Render.Fault.tooDeep.refusal.message, s', ?_, carried⟩
          simp [Writer.takeAll, Writer.write, levels]

/-- The run of a command closes its service once. -/
theorem closings_ofCommand {settings : Config.Settings} {engine : Engine} {service : Service}
    (created : settings.setUp = .ok (engine, service)) (c : Command) (s : Simulation Reply) :
    (ofCommand settings "json" c s).simulation.transcript.closings = s.transcript.closings + 1 := by
  obtain ⟨outputs, outcome, after, ends, kept⟩ :=
    exists_ends_operation c service engine.backend s
  have concludes := concludes_of_ends c.name.word created ends
  have unclosed : after.transcript.closings = s.transcript.closings := (Prod.mk.inj kept).1
  rw [← unclosed]
  exact concludes.closings

end Run

end Bazaar
