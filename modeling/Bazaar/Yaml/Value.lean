import Bazaar.Yaml.Node
import Bazaar.Yaml.Scalar
import Bazaar.Yaml.Token.Lexer

/-!
# Values of YAML documents

Turns the nodes of a document into values.  Scalars are settled as they are met, while a collection
is only begun then and filled in its turn, so of several faults the outermost comes first.  The
entries of mappings under a merge key come before a mapping's own; a key has to be a scalar.
-/

namespace Bazaar.Yaml

/-! ## Merge keys -/

namespace Graph

/-- Whether a node has a tag. -/
def hasTag (g : Graph) (tag : Tag) (id : NodeId) : Bool :=
  (g.node id).tag == tag

/-- How many entries of all mappings have a merge key. -/
def mergeCount (g : Graph) : Nat :=
  (g.toList.map fun n =>
    match n.body with
    | .mapping entries => entries.countP fun (k, _) => g.hasTag .merge k
    | _ => 0).foldl (· + ·) 0

/-- Gives a mapping other entries. -/
def setEntries (g : Graph) (id : NodeId) (entries : List (NodeId × NodeId)) : Graph :=
  g.replace id { g.node id with body := .mapping entries }

/-- Takes the first entry with a merge key out of a mapping: its value, and the rest. -/
def takeMerge? (g : Graph) (id : NodeId) : Option (NodeId × Graph) :=
  let (before, behind) := (g.entries id).span fun (k, _) => !g.hasTag .merge k
  match behind with
  | [] => none
  | (_, source) :: behind => some (source, g.setEntries id (before ++ behind))

/-- Makes the keys of a mapping that stand for its own value plain texts. -/
def nameValueKeys (g : Graph) (id : NodeId) : Graph :=
  (g.entries id).foldl (fun g (k, _) =>
    if g.hasTag .defaultValue k then g.replace k { g.node k with tag := .text } else g) g

/-- Puts the entries that merge keys bring in before a mapping's own, behind those found already.
They are those of a mapping, or of several, the first of which wins and so comes last.  Each step
takes one merge key away, so their number bounds the steps. -/
def merge : Nat → NodeId → List (NodeId × NodeId) → Graph → Result Graph
  | 0, _, _, _ => .error .malformed
  | fuel + 1, id, found, g => do
    match g.takeMerge? id with
    | none => return (g.nameValueKeys id).setEntries id (found ++ g.entries id)
    | some (source, g) =>
      match (g.node source).body with
      | .mapping _ =>
        let g ← merge fuel source [] g
        merge fuel id (found ++ g.entries source) g
      | .sequence items =>
        let (several, g) ← items.foldlM (fun (several, g) item => do
          match (g.node item).body with
          | .mapping _ =>
            let g ← merge fuel item [] g
            pure (g.entries item ++ several, g)
          | _ => throw .malformed) ([], g)
        merge fuel id (found ++ several) g
      | .scalar _ => throw .malformed

end Graph

/-! ## Parts of values -/

/-- What a node has come to: a value, or a collection of what other nodes come to. -/
inductive Part where
  | whole (v : Value)
  | list (items : List NodeId)
  | pairs (entries : List (NodeId × NodeId))
  | map (entries : List (Value × NodeId))
  | set (items : List Value)

/-- A document under construction: what the nodes have come to so far, and the collections that
were begun last, the latest first. -/
structure Building where
  graph : Graph
  merges : Nat
  parts : Array (Option Part)
  begun : List NodeId := []

namespace Building

/-- What a node has come to. -/
def part? (b : Building) (id : NodeId) : Option Part :=
  (b.parts[id]?).join

/-- Settles what a node comes to. -/
def settle (b : Building) (id : NodeId) (part : Part) : Building :=
  { b with parts := b.parts.setIfInBounds id (some part) }

/-- The text of a node under a tag for scalars.  A mapping has the text of its own value; one that
is its own value has no end. -/
def textOf (g : Graph) : Nat → NodeId → Result String
  | 0, _ => .error .tooDeep
  | fuel + 1, id =>
    match (g.node id).body with
    | .scalar s => .ok s
    | .sequence _ => .error .malformed
    | .mapping entries =>
      match entries.find? fun (k, _) => g.hasTag .defaultValue k with
      | some (_, v) => textOf g fuel v
      | none => .error .malformed

section

variable [Platform]

/-- The value of a node under a tag for scalars.  A time has to be written in the node itself. -/
def scalarOf (g : Graph) (id : NodeId) : Result Value := do
  let n := g.node id
  let s ← textOf g (g.size + 1) id
  match n.tag, n.body with
  | .timestamp, .mapping _ => throw .timeOfMapping
  | tag, _ => scalarValue tag s

omit [Platform] in
/-- Begins a collection that is yet to be filled. -/
def openPart (b : Building) (id : NodeId) (part : Part) : Building :=
  { b.settle id part with begun := id :: b.begun }

/-- Begins a node, unless it has begun. -/
def start (b : Building) (id : NodeId) : Result Building :=
  match b.part? id with
  | some _ => .ok b
  | none =>
    match (b.graph.node id).tag with
    | .sequence => .ok (b.openPart id (.list []))
    | .orderedMapping | .pairs => .ok (b.openPart id (.pairs []))
    | .mapping => .ok (b.openPart id (.map []))
    | .set => .ok (b.openPart id (.set []))
    | .merge | .defaultValue | .unknown => .error .malformed
    | _ => (scalarOf b.graph id).map fun v => b.settle id (.whole v)

/-- Begins the keys and values of a mapping, and gives the keys. -/
def startEntries (b : Building) :
    List (NodeId × NodeId) → Result (List (Value × NodeId) × Building)
  | [] => .ok ([], b)
  | (k, v) :: rest => do
    let b ← b.start k
    match b.part? k with
    | some (.whole key) =>
      let b ← b.start v
      let (others, b) ← startEntries b rest
      return ((key, v) :: others, b)
    | _ => throw .malformed

/-- Begins the only key and the only value of each of several mappings. -/
def startPairs (b : Building) : List NodeId → Result (List (NodeId × NodeId) × Building)
  | [] => .ok ([], b)
  | id :: rest => do
    match (b.graph.node id).body with
    | .mapping [(k, v)] =>
      let b ← (← b.start k).start v
      let (others, b) ← startPairs b rest
      return ((k, v) :: others, b)
    | _ => throw .malformed

/-- Fills a collection that was begun. -/
def fill (b : Building) (id : NodeId) : Result Building := do
  match b.part? id, (b.graph.node id).body with
  | some (.list _), .sequence items =>
    return (← items.foldlM start b).settle id (.list items)
  | some (.pairs _), .sequence items =>
    let (entries, b) ← b.startPairs items
    return b.settle id (.pairs entries)
  | some (.map _), .mapping _ =>
    let g ← b.graph.merge b.merges id []
    let (entries, b) ← { b with graph := g }.startEntries (g.entries id)
    return b.settle id (.map entries)
  | some (.set _), .mapping _ =>
    let g ← b.graph.merge b.merges id []
    let (entries, b) ← { b with graph := g }.startEntries (g.entries id)
    return b.settle id (.set (entries.map (·.1)))
  | _, _ => throw .malformed

/-- Fills the collections that have begun, then those that began meanwhile, and so on. -/
def fillAll : Nat → Building → Result Building
  | 0, b => .ok b
  | fuel + 1, b =>
    if b.begun.isEmpty then .ok b
    else do fillAll fuel (← b.begun.reverse.foldlM fill { b with begun := [] })

end

end Building

/-! ## Values -/

/-- The values of the nodes below which no node lies within itself, as far as they are known. -/
abbrev Known := Array (Option Value)

/-- Puts the value of a node together, given the nodes around it.  A node that lies within itself
has no finite value; it is followed around the circle twice and is empty then.  The flag says
whether that happened. -/
def valueOf (parts : Array (Option Part)) : Nat → List NodeId → NodeId → StateM Known (Value × Bool)
  | 0, _, _ => return (.null, true)
  | fuel + 1, around, id => do
    match ((← get)[id]?).join with
    | some v => return (v, false)
    | none =>
      let part := ((parts[id]?).join).getD (.whole .null)
      let cut := 3 ≤ around.count id
      let below (id' : NodeId) : StateM Known (Value × Bool) :=
        valueOf parts fuel (id :: around) id'
      let (v, circular) ←
        match part with
        | .whole v => pure (v, false)
        | .set items => pure (.set (Value.distinct items), false)
        | .list items =>
          if cut then pure (.list [], true)
          else do
            let vs ← items.mapM below
            pure (.list (vs.map (·.1)), vs.any (·.2))
        | .pairs entries =>
          if cut then pure (.list [], true)
          else do
            let vs ← entries.mapM fun (k, v) => do
              let (k, circular) ← below k
              let (v, circular') ← below v
              pure (Value.tuple [k, v], circular || circular')
            pure (.list (vs.map (·.1)), vs.any (·.2))
        | .map entries =>
          if cut then pure (.map [], true)
          else do
            let vs ← entries.mapM fun (k, v) => do
              let (v, circular) ← below v
              pure ((k, v), circular)
            pure (.map (Mapping.ofPairs (vs.map (·.1))), vs.any (·.2))
      if !circular then modify fun known => known.setIfInBounds id (some v)
      return (v, circular)

variable [Platform]

/-- The value of a document. -/
def Document.value (d : Document) : Result Value := do
  let count := d.graph.size
  let b : Building :=
    { graph := d.graph, merges := d.graph.mergeCount + 1, parts := Array.replicate count none }
  let b ← Building.fillAll (count + 1) (← b.start d.root)
  let ((v, _), _) := (valueOf b.parts (4 * count + 4) [] d.root).run (Array.replicate count none)
  return v

/-- The value of a text; an empty text is nothing. -/
def read (s : String) : Result Value := do
  match ← Document.ofTokens (tokens s.toList) with
  | none => return .null
  | some d => d.value

end Bazaar.Yaml
