import Bazaar.Text.Line
import Bazaar.Yaml.Token.Scalar

/-!
# From text to tokens

A scan over the text that keeps the indentation of the open collections and the places where a key
may have begun.  A colon turns the latest such place into a key, so tokens are put in behind the
ones already found; the tokens before every such place are settled.
-/

namespace Bazaar.Yaml

/-- A place where a key may have begun. -/
structure KeyPlace where
  token : Nat
  required : Bool
  index : Nat
  line : Nat
  column : Nat

/-- The state of a scan. -/
structure Lexer where
  cursor : Cursor
  tokens : Array Token := #[]
  flowLevel : Nat := 0
  indent : Int := -1
  indents : List Int := []
  keyAllowed : Bool := true
  keyPlaces : List (Nat × KeyPlace) := []

namespace Lexer

/-- Appends a token. -/
def push (l : Lexer) (t : Token) : Lexer :=
  { l with tokens := l.tokens.push t }

/-- Puts a token in at a place. -/
def insertAt (l : Lexer) (place : Nat) (t : Token) : Lexer :=
  { l with tokens := l.tokens.insertIdxIfInBounds place t }

/-- Moves the place on. -/
def skip (l : Lexer) (n : Nat) : Lexer :=
  { l with cursor := l.cursor.skip n }

/-- The place where a key may have begun at the current level. -/
def keyPlace? (l : Lexer) : Option KeyPlace :=
  l.keyPlaces.lookup l.flowLevel

/-- Forgets the place where a key may have begun at the current level; a key that had to be there
is an error. -/
def forgetKeyPlace (l : Lexer) : Result Lexer :=
  match l.keyPlace? with
  | some p =>
    if p.required then .error .malformed
    else .ok { l with keyPlaces := l.keyPlaces.filter fun (level, _) => level != l.flowLevel }
  | none => .ok l

/-- Notes that a key may begin here. -/
def noteKeyPlace (l : Lexer) : Result Lexer :=
  if l.keyAllowed then do
    let l ← l.forgetKeyPlace
    let c := l.cursor
    let place : KeyPlace :=
      ⟨l.tokens.size, l.flowLevel == 0 && l.indent == c.column, c.index, c.line, c.column⟩
    return { l with keyPlaces := (l.flowLevel, place) :: l.keyPlaces }
  else .ok l

/-- Whether a key that begins at a place can still end here: on the same line, not too far on. -/
def isFresh (c : Cursor) (p : KeyPlace) : Bool :=
  p.line == c.line && c.index - p.index ≤ 1024

/-- Forgets the places that lie too far back. -/
def dropStaleKeyPlaces (l : Lexer) : Result Lexer :=
  let (fresh, stale) := l.keyPlaces.partition fun (_, p) => isFresh l.cursor p
  if stale.any fun (_, p) => p.required then .error .malformed
  else .ok { l with keyPlaces := fresh }

/-- Ends the indented collections that lie right of a column, given those that are open. -/
def closeIndents (column : Int) : Int → List Int → Nat × Int × List Int
  | indent, [] => (0, indent, [])
  | indent, outer :: rest =>
    if column < indent then
      let (count, indent, rest) := closeIndents column outer rest
      (count + 1, indent, rest)
    else (0, indent, outer :: rest)

/-- Ends the indented collections that lie right of a column. -/
def unwind (l : Lexer) (column : Int) : Lexer :=
  if l.flowLevel != 0 then l
  else
    let (count, indent, indents) := closeIndents column l.indent l.indents
    { l with
      tokens := l.tokens ++ Array.replicate count .blockEnd, indent := indent, indents := indents }

/-- Starts an indented collection at a column if it lies right of the open ones. -/
def openIndent? (l : Lexer) (column : Nat) : Option Lexer :=
  if l.indent < column then
    some { l with indent := column, indents := l.indent :: l.indents }
  else none

/-- Skips spaces, comments and line breaks before a token. -/
def skipBlank : Nat → Lexer → Lexer
  | 0, l => l
  | fuel + 1, l =>
    let c := l.cursor.skipSpaces.skipComment
    match c.lineBreak? with
    | some (_, c) =>
      skipBlank fuel { l with cursor := c, keyAllowed := l.keyAllowed || l.flowLevel == 0 }
    | none => { l with cursor := c }

/-- Ends every collection before a mark that concerns the whole document. -/
def toDocumentLevel (l : Lexer) : Result Lexer := do
  let l ← (l.unwind (-1)).forgetKeyPlace
  return { l with keyAllowed := false }

/-- Whether a character may stand in a name. -/
def isNameChar (c : Char) : Bool :=
  c.isAlphanum || c == '-' || c == '_'

/-- Whether a character may stand in a tag. -/
def isTagChar (c : Char) : Bool :=
  c.isAlphanum || "-;/?:@&=+$,_.!~*'()[]%".toList.contains c

/-- A number in a directive. -/
def directiveNumber (c : Cursor) : Result (Nat × Cursor) :=
  let (digits, c) := c.takeWhile Text.isAsciiDigit
  if digits.isEmpty then .error .malformed
  else .ok (Text.natOfDigits (digits.filterMap Text.digitValue?), c)

/-- The handle of a tag: a mark alone, or a name between two marks. -/
def tagHandle (c : Cursor) : Result (String × Cursor) :=
  if c.head? != some '!' then .error .malformed
  else
    let (name, after) := c.next.takeWhile isNameChar
    if c.peek 1 == some ' ' then .ok ("!", c.next)
    else if after.head? == some '!' then
      .ok (String.ofList ('!' :: name ++ ['!']), after.next)
    else .error .malformed

/-- The rest of a tag, with bytes written as two hexadecimal digits decoded. -/
def decodeTag : List Char → Option (List UInt8)
  | [] => some []
  | '%' :: a :: b :: rest => do
    let high ← Text.hexValue? a
    let low ← Text.hexValue? b
    return UInt8.ofNat (high * 16 + low) :: (← decodeTag rest)
  | '%' :: _ => none
  | c :: rest => (decodeTag rest).map (Text.utf8Char c ++ ·)

/-- The rest of a tag behind its handle. -/
def tagSuffix (c : Cursor) : Result (String × Cursor) :=
  let (chars, c) := c.takeWhile isTagChar
  if chars.isEmpty then .error .malformed
  else
    match decodeTag chars with
    | none => .error .malformed
    | some bytes =>
      match Text.decodeUtf8 bytes with
      | .ok text => .ok (String.ofList text, c)
      | .error _ => .error .malformed

/-- Reads what a directive says behind its name. -/
def directiveValue (name : String) (c : Cursor) : Result (Directive × Cursor) := do
  if name == "YAML" then
    let (major, c) ← directiveNumber c.skipSpaces
    if c.head? != some '.' then throw .malformed
    let (minor, c) ← directiveNumber c.next
    if !endsWord c.head? then throw .malformed
    return (.version major minor, c)
  else if name == "TAG" then
    let (handle, c) ← tagHandle c.skipSpaces
    if c.head? != some ' ' then throw .malformed
    let (start, c) ← tagSuffix c.skipSpaces
    if !endsWord c.head? then throw .malformed
    return (.tagHandle handle start, c)
  else return (.reserved, c.skipWhile fun ch => !isBreak ch)

/-- Reads a directive at its percent sign. -/
def directive (c : Cursor) : Result (Directive × Cursor) := do
  let (name, c) := c.next.takeWhile isNameChar
  if name.isEmpty || !endsWord c.head? then throw .malformed
  let (d, c) ← directiveValue (String.ofList name) c
  let c := c.skipSpaces.skipComment
  match c.lineBreak? with
  | some (_, c) => return (d, c)
  | none => if c.rest.isEmpty then return (d, c) else throw .malformed

/-- Reads the name of an anchor or an alias at its sign. -/
def anchorName (c : Cursor) : Result (String × Cursor) :=
  let (name, c) := c.next.takeWhile isNameChar
  let ends :=
    isGap c.head? || c.head?.any fun ch => "?:,]\x7d%@`".toList.contains ch
  if name.isEmpty || !ends then .error .malformed else .ok (String.ofList name, c)

/-- Whether a second mark stands in the word at a place, so that the tag has a named handle. -/
def hasNamedHandle : List Char → Bool
  | [] => false
  | ch :: rest =>
    if ch == ' ' || isBreak ch then false else ch == '!' || hasNamedHandle rest

/-- Reads a tag at its mark. -/
def tag (c : Cursor) : Result (TagText × Cursor) := do
  let (t, c) ←
    match c.peek 1 with
    | some '<' => do
      let (suffix, c) ← tagSuffix (c.skip 2)
      if c.head? != some '>' then throw .malformed
      pure (⟨none, suffix⟩, c.next)
    | other =>
      if isGap other then pure (⟨none, "!"⟩, c.next)
      else if hasNamedHandle c.next.rest then do
        let (handle, c) ← tagHandle c
        let (suffix, c) ← tagSuffix c
        pure (⟨some handle, suffix⟩, c)
      else do
        let (suffix, c) ← tagSuffix c.next
        pure (⟨some "!", suffix⟩, c)
  if !endsWord c.head? then throw .malformed
  return (t, c)

/-- Starts a flow collection. -/
def flowStart (l : Lexer) (t : Token) : Result Lexer := do
  let l ← l.noteKeyPlace
  return { (l.skip 1).push t with flowLevel := l.flowLevel + 1, keyAllowed := true }

/-- Ends a flow collection; outside of one its mark is an error. -/
def flowEnd (l : Lexer) (t : Token) : Result Lexer := do
  let l ← l.forgetKeyPlace
  if l.flowLevel == 0 then throw .malformed
  return { (l.skip 1).push t with flowLevel := l.flowLevel - 1, keyAllowed := false }

/-- Separates the items of a flow collection. -/
def flowEntry (l : Lexer) : Result Lexer := do
  let l ← { l with keyAllowed := true }.forgetKeyPlace
  return (l.skip 1).push .flowEntry

/-- Starts an indented collection here, unless one is open at this column. -/
def openHere (l : Lexer) (t : Token) : Lexer :=
  match l.openIndent? l.cursor.column with
  | some l => l.push t
  | none => l

/-- Starts an item of an indented sequence. -/
def blockEntry (l : Lexer) : Result Lexer := do
  let l ←
    if l.flowLevel != 0 then pure l
    else if l.keyAllowed then pure (l.openHere .blockSequenceStart)
    else throw .malformed
  let l ← { l with keyAllowed := true }.forgetKeyPlace
  return (l.skip 1).push .blockEntry

/-- Starts a key that is marked as one. -/
def markedKey (l : Lexer) : Result Lexer := do
  let l ←
    if l.flowLevel != 0 then pure l
    else if l.keyAllowed then pure (l.openHere .blockMappingStart)
    else throw .malformed
  let l ← { l with keyAllowed := l.flowLevel == 0 }.forgetKeyPlace
  return (l.skip 1).push .key

/-- Starts a value.  If a key may have begun before, it did. -/
def mappingValue (l : Lexer) : Result Lexer := do
  match l.keyPlace? with
  | some p =>
    let others := l.keyPlaces.filter fun (level, _) => level != l.flowLevel
    let l := { l with keyPlaces := others, keyAllowed := false }.insertAt p.token .key
    let l :=
      if l.flowLevel != 0 then l
      else
        match l.openIndent? p.column with
        | some l => l.insertAt p.token .blockMappingStart
        | none => l
    return (l.skip 1).push .value
  | none =>
    let l ←
      if l.flowLevel != 0 then pure l
      else if l.keyAllowed then pure (l.openHere .blockMappingStart)
      else throw .malformed
    let l ← { l with keyAllowed := l.flowLevel == 0 }.forgetKeyPlace
    return (l.skip 1).push .value

/-- Takes a token that may be a key. -/
def keyLike (l : Lexer) (read : Cursor → Result (Token × Cursor)) : Result Lexer := do
  let l ← l.noteKeyPlace
  let (t, c) ← read l.cursor
  return { l.push t with cursor := c, keyAllowed := false }

/-- Takes a block scalar. -/
def blockText (l : Lexer) (folded : Bool) : Result Lexer := do
  let l ← { l with keyAllowed := true }.forgetKeyPlace
  let (text, c) ← blockScalar folded l.indent l.cursor
  return { l.push (.scalar false text) with cursor := c }

/-- Takes a plain scalar; behind a line break a key may begin. -/
def plainText (l : Lexer) : Result Lexer := do
  let l ← l.noteKeyPlace
  let (text, broken, c) := plainScalar (l.flowLevel != 0) l.indent l.cursor
  return { l.push (.scalar true text) with cursor := c, keyAllowed := broken }

/-- Whether a plain scalar may start with a character, given the one behind it. -/
def startsPlain (inFlow : Bool) (ch : Char) (behind : Option Char) : Bool :=
  let mark := "-?:,[]\x7b\x7d#&*!|>'\"%@`".toList.contains ch
  if ch == ' ' || ch == '\t' || isBreak ch then false
  else if mark then !isGap behind && (ch == '-' || (!inFlow && (ch == '?' || ch == ':')))
  else true

/-- Takes the token that starts with a character. -/
def tokenAt (l : Lexer) (ch : Char) : Result Lexer :=
  let c := l.cursor
  let inFlow := l.flowLevel != 0
  let gapBehind := isGap (c.peek 1)
  let documentMark (t : Token) : Result Lexer := do
    return ((← l.toDocumentLevel).skip 3).push t
  if ch == '%' && c.column == 0 then do
    let l ← l.toDocumentLevel
    let (d, c) ← directive l.cursor
    return { l.push (.directive d) with cursor := c }
  else if c.column == 0 && c.hasMarks '-' then documentMark .documentStart
  else if c.column == 0 && c.hasMarks '.' then documentMark .documentEnd
  else if ch == '[' then l.flowStart .flowSequenceStart
  else if ch == '\x7b' then l.flowStart .flowMappingStart
  else if ch == ']' then l.flowEnd .flowSequenceEnd
  else if ch == '\x7d' then l.flowEnd .flowMappingEnd
  else if ch == ',' then l.flowEntry
  else if ch == '-' && gapBehind then l.blockEntry
  else if ch == '?' && (inFlow || gapBehind) then l.markedKey
  else if ch == ':' && (inFlow || gapBehind) then l.mappingValue
  else if ch == '*' then
    l.keyLike fun c => (anchorName c).map fun (name, c) => (.alias name, c)
  else if ch == '&' then
    l.keyLike fun c => (anchorName c).map fun (name, c) => (.anchor name, c)
  else if ch == '!' then l.keyLike fun c => (tag c).map fun (t, c) => (.tag t, c)
  else if ch == '|' && !inFlow then l.blockText false
  else if ch == '>' && !inFlow then l.blockText true
  else if ch == '\'' then
    l.keyLike fun c => (quotedScalar false c).map fun (text, c) => (.scalar false text, c)
  else if ch == '"' then
    l.keyLike fun c => (quotedScalar true c).map fun (text, c) => (.scalar false text, c)
  else if startsPlain inFlow ch (c.peek 1) then l.plainText
  else .error .malformed

/-- Takes the token at the place, or the end of the text. -/
def fetch (l : Lexer) : Result Lexer := do
  let l := skipBlank (l.cursor.rest.length + 1) l
  let l ← l.dropStaleKeyPlaces
  let l := l.unwind l.cursor.column
  let l ←
    match l.cursor.head? with
    | none => do
      let l ← (l.unwind (-1)).forgetKeyPlace
      pure (l.push .streamEnd)
    | some ch => l.tokenAt ch
  l.dropStaleKeyPlaces

/-- The tokens before which no key can be put in any more. -/
def settled (l : Lexer) : List Token :=
  l.tokens.toList.take ((l.keyPlaces.map fun (_, p) => p.token).foldl min l.tokens.size)

/-- Takes tokens up to the end of the text, or to the place where it is broken. -/
def run : Nat → Lexer → List Token
  | 0, l => l.settled ++ [.broken .malformed]
  | fuel + 1, l =>
    match l.fetch with
    | .error fault => l.settled ++ [.broken fault]
    | .ok l => if l.tokens.back? == some .streamEnd then l.tokens.toList else run fuel l

end Lexer

/-- The tokens of a text. -/
def tokens (text : List Char) : List Token :=
  if text.all isAllowed then
    let body :=
      match text with
      | '\uFEFF' :: rest => rest
      | cs => cs
    Lexer.run (body.length + 1) { cursor := { rest := body } }
  else [.broken .malformed]

end Bazaar.Yaml
