import Bazaar.Render.Console
import Bazaar.Render.Document

/-!
# Output writers

A writer takes results as they come.  The console writer reports each at once as log entries; the
document writer collects them and prints one JSON document at the end, bare when it holds a single
result.  What nests too deep is not taken, and what cannot be written is not printed.
-/

namespace Bazaar.Render

/-- Something to write. -/
inductive Output where
  | result (r : SearchResult)
  | aggregate (a : Aggregate)
  | lookup (index : String) (hits : List Hit)
  | counts (c : DashboardCounts)
  | health (healthy : Bool)

/-- Log entries for the console. -/
def Output.entries : Output → List LogEntry
  | .result r => resultEntries r
  | .aggregate a => aggregateEntries a
  | .lookup index hs => lookupEntries index hs
  | .counts c => countsEntries c
  | .health healthy => healthEntries healthy

/-- The JSON form. -/
def Output.document : Output → Json
  | .result r => Render.result r
  | .aggregate a => Render.aggregate a
  | .lookup index hs => Render.lookup index hs
  | .counts c => Render.counts c
  | .health healthy => Render.health healthy

/-- How many arrays and objects lie within each other in the other attributes of hits. -/
def levelsOf (hs : List Hit) : Nat :=
  (hs.map fun h => (Json.obj h.extra).depth).foldr max 0

/-- How many arrays and objects lie within each other in the hits of something to write. -/
def Output.levels : Output → Nat
  | .result r => levelsOf r.hits
  | .aggregate a => levelsOf (a.flatMap fun (_, r) => r.hits)
  | .lookup _ hs => levelsOf hs
  | .counts _ | .health _ => 0

/-- Why something is not written. -/
inductive Fault where
  | tooDeep
  | tooDeepToPrint (isCompact : Bool)
  | number (fault : NumberFault)
  | halves (e : Phrase.HalfError)
  deriving DecidableEq, Repr

/-- What a fault is reported as. -/
def Fault.refusal : Fault → Refusal
  | .tooDeep => ⟨.recursion, "maximum recursion depth exceeded in comparison"⟩
  | .tooDeepToPrint isCompact =>
    ⟨.recursion, "maximum recursion depth exceeded " ++
      if isCompact then "while encoding a JSON object" else "in __instancecheck__"⟩
  | .number fault => ⟨.value, fault.message⟩
  | .halves e => ⟨.encoding, e.message⟩

/-- A writer: for the console, or for a document with an indentation and what was collected. -/
inductive Writer where
  | console
  | document (indent : Option Nat) (collected : List Json)

namespace Writer

/-- Why there is no writer. -/
structure UnknownFormat where
  format : String
  deriving DecidableEq, Repr

/-- The wording of a refusal. -/
def UnknownFormat.message (e : UnknownFormat) : String :=
  "Unsupported output format: " ++ e.format

/-- The formats that a writer exists for. -/
def formats : List String := ["console", "json"]

/-- The writer of a format. -/
def ofFormat (format : String) : Except UnknownFormat Writer :=
  if format == "console" then .ok .console
  else if format == "json" then .ok (.document (some 2) [])
  else .error ⟨format⟩

/-- Takes something to write, as far as so many levels may lie within each other: the writer
afterwards and what it reports. -/
def write (room : Nat) (w : Writer) (o : Output) : Except Fault (Writer × List LogEntry) :=
  match w with
  | .console => .ok (.console, o.entries)
  | .document indent collected =>
    if o.levels ≤ room then .ok (.document indent (collected ++ [o.document]), [])
    else .error .tooDeep

/-- The document of what was collected; nothing for nothing. -/
def collectedDocument? : List Json → Option Json
  | [] => none
  | [single] => some single
  | several => some (.arr several)

variable [Platform]

/-- The text of a document and the end of its line, as far as so many levels may lie within each
other. -/
def print (room : Nat) (indent : Option Nat) (document : Json) : Except Fault String := do
  (Platform.checkWriting document.mostDigits).mapError .number
  if room < document.depth then throw (.tooDeepToPrint indent.isNone)
  (document.render indent ++ Phrase.ofString "\n").write.mapError .halves

/-- Ends a run: the writer afterwards and the text that it prints. -/
def finish (room : Nat) (w : Writer) : Except Fault (Writer × String) :=
  match w with
  | .console => .ok (.console, "")
  | .document indent collected =>
    match collectedDocument? collected with
    | none => .ok (.document indent [], "")
    | some whole => (print room indent whole).map fun text => (.document indent [], text)

end Writer

end Bazaar.Render
