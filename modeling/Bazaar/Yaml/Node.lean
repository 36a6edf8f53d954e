import Bazaar.Platform
import Bazaar.Yaml.Plain
import Bazaar.Yaml.Token.Basic

/-!
# The nodes of a YAML document

Nodes with their tags, built from tokens.  A node names its parts by their places, so that an alias
can stand for any node that has begun, and a collection may lie within itself.
-/

namespace Bazaar.Yaml

/-- The place of a node in its document. -/
abbrev NodeId := Nat

/-- What a node consists of. -/
inductive Body where
  | scalar (text : String)
  | sequence (items : List NodeId)
  | mapping (entries : List (NodeId × NodeId))
  deriving DecidableEq, Repr

/-- A node: its tag and what it consists of. -/
structure Node where
  tag : Tag
  body : Body
  deriving DecidableEq, Repr

/-- A node that is not written. -/
def Node.empty : Node := ⟨.null, .scalar ""⟩

/-- The nodes of a document by place. -/
abbrev Graph := Array Node

namespace Graph

/-- The node at a place. -/
def node (g : Graph) (id : NodeId) : Node :=
  g[id]?.getD .empty

/-- Replaces the node at a place. -/
def replace (g : Graph) (id : NodeId) (n : Node) : Graph :=
  g.setIfInBounds id n

/-- The entries of a mapping; other nodes have none. -/
def entries (g : Graph) (id : NodeId) : List (NodeId × NodeId) :=
  match (g.node id).body with
  | .mapping entries => entries
  | _ => []

end Graph

/-- A document: its nodes, and the place of the outermost one. -/
structure Document where
  graph : Graph
  root : NodeId

/-- The handles of tags and what they stand for. -/
abbrev TagHandles := List (String × String)

/-- The handles that every document knows. -/
def defaultHandles : TagHandles := [("!", "!"), ("!!", "tag:yaml.org,2002:")]

/-- What is left of the tokens, the nodes and the anchors seen so far, and how many collections
are open. -/
structure Pending where
  tokens : List Token
  graph : Graph := #[]
  anchors : List (String × NodeId) := []
  handles : TagHandles := defaultHandles
  depth : Nat := 0

namespace Pending

/-- The next token, unless the text is broken there. -/
def peek (p : Pending) : Result Token :=
  match p.tokens with
  | .broken fault :: _ => .error fault
  | t :: _ => .ok t
  | [] => .ok .streamEnd

/-- The state behind the next token. -/
def tail (p : Pending) : Pending :=
  { p with tokens := p.tokens.tail }

/-- Adds a node. -/
def add (p : Pending) (n : Node) : NodeId × Pending :=
  (p.graph.size, { p with graph := p.graph.push n })

/-- Names a node by an anchor, if there is one. -/
def name (p : Pending) (anchor : Option String) (id : NodeId) : Pending :=
  match anchor with
  | some a => { p with anchors := (a, id) :: p.anchors }
  | none => p

/-- Closes a collection: gives its node the parts. -/
def closeNode (p : Pending) (id : NodeId) (body : Body) : Pending :=
  { p with
    depth := p.depth - 1
    graph := p.graph.replace id { p.graph.node id with body := body } }

end Pending

/-- The kind of a tag in full. -/
def Tag.ofName (name : String) : Tag :=
  let names : List (String × Tag) :=
    [("null", .null), ("bool", .flag), ("int", .integer), ("float", .decimal),
     ("binary", .binary), ("timestamp", .timestamp), ("str", .text), ("merge", .merge),
     ("value", .defaultValue), ("seq", .sequence), ("map", .mapping), ("set", .set),
     ("omap", .orderedMapping), ("pairs", .pairs)]
  ((names.find? fun (n, _) => "tag:yaml.org,2002:" ++ n == name).map (·.2)).getD .unknown

/-- What is written before a node: an anchor, and a tag in full. -/
structure Properties where
  anchor : Option String := none
  tag : Option String := none

namespace Properties

/-- Whether anything is written before the node. -/
def isPresent (p : Properties) : Bool :=
  p.anchor.isSome || p.tag.isSome

/-- The tag, unless it is missing or leaves the choice open. -/
def named? (p : Properties) : Option String :=
  match p.tag with
  | some "!" => none
  | tag => tag

/-- The kind of a collection. -/
def collectionTag (p : Properties) (usual : Tag) : Tag :=
  match p.named? with
  | some name => Tag.ofName name
  | none => usual

/-- The kind of a scalar: a plain word without a tag is looked at, a quoted one is a text. -/
def scalarTag (p : Properties) (plain : Bool) (text : String) : Tag :=
  match p.named? with
  | some name => Tag.ofName name
  | none => if plain || p.tag.isSome then Plain.tag text else .text

end Properties

/-- A tag in full. -/
def resolveTag (handles : TagHandles) (t : TagText) : Result String :=
  match t.handle with
  | none => .ok t.suffix
  | some handle =>
    match handles.lookup handle with
    | some start => .ok (start ++ t.suffix)
    | none => .error .malformed

/-- Reads anchor and tag before a node, in either order. -/
def properties (p : Pending) : Result (Properties × Pending) := do
  match ← p.peek with
  | .anchor name =>
    let p := p.tail
    match ← p.peek with
    | .tag t => return (⟨some name, some (← resolveTag p.handles t)⟩, p.tail)
    | _ => return (⟨some name, none⟩, p)
  | .tag t =>
    let p := p.tail
    match ← p.peek with
    | .anchor name => return (⟨some name, some (← resolveTag p.handles t)⟩, p.tail)
    | _ => return (⟨none, some (← resolveTag p.handles t)⟩, p)
  | _ => return ({}, p)

/-- Where a node stands, which decides the collections that may start there. -/
inductive Position where
  | flow
  | block
  | blockOrUnindented
  deriving DecidableEq, Repr

/-- Checks that an anchor is new. -/
def checkAnchor (p : Pending) (anchor : Option String) : Result Unit :=
  if (anchor.bind fun name => p.anchors.lookup name).isSome then .error .malformed else .ok ()

/-- Adds a scalar. -/
def addScalar (props : Properties) (plain : Bool) (text : String) (p : Pending) :
    Result (NodeId × Pending) := do
  checkAnchor p props.anchor
  let (id, p) := p.add ⟨props.scalarTag plain text, .scalar text⟩
  return (id, p.name props.anchor id)

/-- Adds a node without content: allowed behind an anchor or a tag. -/
def addMissing (props : Properties) (p : Pending) : Result (NodeId × Pending) :=
  if props.isPresent then addScalar props true "" p else .error .malformed

variable [Platform]

/-- Opens a collection: adds its node, so far without parts, and names it. -/
def openCollection (props : Properties) (n : Node) (p : Pending) : Result (NodeId × Pending) := do
  checkAnchor p props.anchor
  if Platform.yamlLevels ≤ p.depth then throw .tooDeep
  let (id, p) := { p with depth := p.depth + 1 }.add n
  return (id, p.name props.anchor id)

/-- Opens a sequence. -/
def openSequence (props : Properties) (p : Pending) : Result (NodeId × Pending) :=
  openCollection props ⟨props.collectionTag .sequence, .sequence []⟩ p

/-- Opens a mapping. -/
def openMapping (props : Properties) (p : Pending) : Result (NodeId × Pending) :=
  openCollection props ⟨props.collectionTag .mapping, .mapping []⟩ p

mutual

/-- Reads a node. -/
def node : Nat → Position → Pending → Result (NodeId × Pending)
  | 0, _, _ => .error .malformed
  | fuel + 1, position, p => do
    match ← p.peek with
    | .alias name =>
      match p.anchors.lookup name with
      | some id => return (id, p.tail)
      | none => throw .malformed
    | _ =>
      let (props, p) ← properties p
      content fuel position props p

/-- Reads a node behind its anchor and tag. -/
def content : Nat → Position → Properties → Pending → Result (NodeId × Pending)
  | 0, _, _, _ => .error .malformed
  | fuel + 1, position, props, p => do
    let inBlock := position != .flow
    match ← p.peek with
    | .scalar plain text => addScalar props plain text p.tail
    | .flowSequenceStart =>
      let (id, p) ← openSequence props p.tail
      let (items, p) ← flowItems fuel true p
      return (id, p.closeNode id (.sequence items))
    | .flowMappingStart =>
      let (id, p) ← openMapping props p.tail
      let (entries, p) ← flowEntries fuel true p
      return (id, p.closeNode id (.mapping entries))
    | .blockEntry =>
      if position == .blockOrUnindented then
        let (id, p) ← openSequence props p
        let (items, p) ← unindentedItems fuel p
        return (id, p.closeNode id (.sequence items))
      else addMissing props p
    | .blockSequenceStart =>
      if inBlock then
        let (id, p) ← openSequence props p.tail
        let (items, p) ← blockItems fuel p
        return (id, p.closeNode id (.sequence items))
      else addMissing props p
    | .blockMappingStart =>
      if inBlock then
        let (id, p) ← openMapping props p.tail
        let (entries, p) ← blockEntries fuel p
        return (id, p.closeNode id (.mapping entries))
      else addMissing props p
    | _ => addMissing props p

/-- Reads a node, or an empty one before some tokens. -/
def nodeUnless : Nat → List Token → Position → Pending → Result (NodeId × Pending)
  | 0, _, _, _ => .error .malformed
  | fuel + 1, ends, position, p => do
    if ends.contains (← p.peek) then return p.add .empty else node fuel position p

/-- Reads the items of an indented sequence and its end. -/
def blockItems : Nat → Pending → Result (List NodeId × Pending)
  | 0, _ => .error .malformed
  | fuel + 1, p => do
    match ← p.peek with
    | .blockEntry =>
      let (n, p) ← nodeUnless fuel [.blockEntry, .blockEnd] .block p.tail
      let (others, p) ← blockItems fuel p
      return (n :: others, p)
    | .blockEnd => return ([], p.tail)
    | _ => throw .malformed

/-- Reads the items of a sequence that is not indented against its key. -/
def unindentedItems : Nat → Pending → Result (List NodeId × Pending)
  | 0, _ => .error .malformed
  | fuel + 1, p => do
    match ← p.peek with
    | .blockEntry =>
      let (n, p) ← nodeUnless fuel [.blockEntry, .key, .value, .blockEnd] .block p.tail
      let (others, p) ← unindentedItems fuel p
      return (n :: others, p)
    | _ => return ([], p)

/-- Reads the entries of an indented mapping and its end. -/
def blockEntries : Nat → Pending → Result (List (NodeId × NodeId) × Pending)
  | 0, _ => .error .malformed
  | fuel + 1, p => do
    match ← p.peek with
    | .key =>
      let ends := [.key, .value, .blockEnd]
      let (k, p) ← nodeUnless fuel ends .blockOrUnindented p.tail
      let (v, p) ←
        if (← p.peek) == .value then nodeUnless fuel ends .blockOrUnindented p.tail
        else pure (p.add .empty)
      let (others, p) ← blockEntries fuel p
      return ((k, v) :: others, p)
    | .blockEnd => return ([], p.tail)
    | _ => throw .malformed

/-- Reads a value behind a key in a flow collection, if it is written. -/
def flowValue : Nat → Token → Pending → Result (NodeId × Pending)
  | 0, _, _ => .error .malformed
  | fuel + 1, closing, p => do
    if (← p.peek) == .value then nodeUnless fuel [.flowEntry, closing] .flow p.tail
    else return p.add .empty

/-- Reads the items of a flow sequence and its end; a key makes an item a mapping of one entry. -/
def flowItems : Nat → Bool → Pending → Result (List NodeId × Pending)
  | 0, _, _ => .error .malformed
  | fuel + 1, first, p => do
    if (← p.peek) == .flowSequenceEnd then return ([], p.tail)
    let p ←
      if first then pure p
      else if (← p.peek) == .flowEntry then pure p.tail
      else throw .malformed
    match ← p.peek with
    | .flowSequenceEnd => return ([], p.tail)
    | .key =>
      let (id, p) ← openMapping {} p
      let (k, p) ← nodeUnless fuel [.value, .flowEntry, .flowSequenceEnd] .flow p.tail
      let (v, p) ← flowValue fuel .flowSequenceEnd p
      let (others, p) ← flowItems fuel false (p.closeNode id (.mapping [(k, v)]))
      return (id :: others, p)
    | _ =>
      let (n, p) ← node fuel .flow p
      let (others, p) ← flowItems fuel false p
      return (n :: others, p)

/-- Reads the entries of a flow mapping and its end; a node alone is a key without a value. -/
def flowEntries : Nat → Bool → Pending → Result (List (NodeId × NodeId) × Pending)
  | 0, _, _ => .error .malformed
  | fuel + 1, first, p => do
    if (← p.peek) == .flowMappingEnd then return ([], p.tail)
    let p ←
      if first then pure p
      else if (← p.peek) == .flowEntry then pure p.tail
      else throw .malformed
    match ← p.peek with
    | .flowMappingEnd => return ([], p.tail)
    | .key =>
      let (k, p) ← nodeUnless fuel [.value, .flowEntry, .flowMappingEnd] .flow p.tail
      let (v, p) ← flowValue fuel .flowMappingEnd p
      let (others, p) ← flowEntries fuel false p
      return ((k, v) :: others, p)
    | _ =>
      let (k, p) ← node fuel .flow p
      let (v, p) := p.add .empty
      let (others, p) ← flowEntries fuel false p
      return ((k, v) :: others, p)

end

/-- Reads the directives before a document: the handles they define, given those defined before,
and whether a version was named. -/
def directives : TagHandles → Bool → List Token → Result (TagHandles × List Token)
  | handles, versioned, .directive d :: rest =>
    match d with
    | .version major _ =>
      if versioned || major != 1 then .error .malformed else directives handles true rest
    | .tagHandle handle start =>
      if (handles.lookup handle).isSome then .error .malformed
      else directives ((handle, start) :: handles) versioned rest
    | .reserved => directives handles versioned rest
  | handles, _, rest =>
    .ok (handles ++ defaultHandles.filter fun (h, _) => (handles.lookup h).isNone, rest)

/-- Checks that nothing but marks of the end of a document is left. -/
def checkEnd : List Token → Result Unit
  | .documentEnd :: rest => checkEnd rest
  | .broken fault :: _ => .error fault
  | [.streamEnd] => .ok ()
  | _ => .error .malformed

/-- The document that a node and the state behind it make up. -/
def documentOf (root : NodeId × Pending) : Result Document := do
  checkEnd root.2.tokens
  return ⟨root.2.graph, root.1⟩

/-- The only document of some tokens; `none` when there is none. -/
def Document.ofTokens (tokens : List Token) : Result (Option Document) := do
  let fuel := 4 * tokens.length + 8
  match tokens with
  | [.streamEnd] => return none
  | .directive _ :: _ | .documentStart :: _ =>
    let (handles, rest) ← directives [] false tokens
    match rest with
    | .broken fault :: _ => throw fault
    | .documentStart :: rest =>
      let ends := [.documentStart, .documentEnd, .streamEnd]
      match rest with
      | .directive _ :: _ => throw .malformed
      | _ => documentOf (← nodeUnless fuel ends .block { tokens := rest, handles := handles })
    | _ => throw .malformed
  | _ => documentOf (← node fuel .block { tokens := tokens })

end Bazaar.Yaml
