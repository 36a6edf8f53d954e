import Bazaar.Text.Bytes
import Bazaar.Text.Digit
import Bazaar.Yaml.Token.Basic

/-!
# Texts of scalars

Reads the four written forms of a scalar: plain, quoted once, quoted twice, and as a block.  Line
breaks inside are folded: one becomes a space, of several the first is dropped.
-/

namespace Bazaar.Yaml

/-- Joins lines: what a line break and the blank lines behind it become. -/
def foldBreak (first : Char) (others : List Char) : List Char :=
  if first != '\n' then first :: others
  else if others.isEmpty then [' ']
  else others

/-! ## Quoted scalars -/

/-- Takes blank lines and the indentation behind them inside quotes; a document mark may not stand
there. -/
def quotedBreaks : Nat → Cursor → Result (List Char × Cursor)
  | 0, c => .ok ([], c)
  | fuel + 1, c =>
    if c.atDocumentMark then .error .malformed
    else
      let c := c.skipWhile fun ch => ch == ' ' || ch == '\t'
      match c.lineBreak? with
      | some (b, c) => do
        let (breaks, c) ← quotedBreaks fuel c
        return (b :: breaks, c)
      | none => .ok ([], c)

/-- The character that a one-letter escape stands for. -/
def escape? (c : Char) : Option Char :=
  match c with
  | '0' => some '\x00'
  | 'a' => some '\x07'
  | 'b' => some '\x08'
  | 't' | '\t' => some '\t'
  | 'n' => some '\n'
  | 'v' => some '\x0b'
  | 'f' => some '\x0c'
  | 'r' => some '\r'
  | 'e' => some '\x1b'
  | ' ' => some ' '
  | '"' => some '"'
  | '\\' => some '\\'
  | '/' => some '/'
  | 'N' => some '\u0085'
  | '_' => some '\u00a0'
  | 'L' => some '\u2028'
  | 'P' => some '\u2029'
  | _ => none

/-- How many hexadecimal digits follow an escape by number. -/
def escapeLength? (c : Char) : Option Nat :=
  match c with
  | 'x' => some 2
  | 'u' => some 4
  | 'U' => some 8
  | _ => none

/-- The number that hexadecimal digits denote. -/
def hexNumber? (ds : List Char) : Option Nat :=
  ds.foldlM (fun n d => (Text.hexValue? d).map (16 * n + ·)) 0

/-- Reads what follows a backslash. -/
def escaped (fuel : Nat) (c : Cursor) : Result (List Char × Cursor) :=
  match c.head? with
  | none => .error .malformed
  | some ch =>
    match escape? ch, escapeLength? ch with
    | some e, _ => .ok ([e], c.next)
    | none, some length =>
      let digits := c.next.rest.take length
      match hexNumber? digits with
      | some n =>
        if digits.length != length then .error .malformed
        else if 0x110000 ≤ n then .error (.noCodePoint (0x80000000 ≤ n))
        else .ok ([Text.charOfCode n], c.next.skip length)
      | none => .error .malformed
    | none, none =>
      match c.lineBreak? with
      | some (_, c) => quotedBreaks fuel c
      | none => .error .malformed

/-- Whether a character ends a run of ordinary characters inside quotes. -/
def interruptsQuoted (c : Char) : Bool :=
  c == '\'' || c == '"' || c == '\\' || c == ' ' || c == '\t' || isBreak c

/-- Reads the inside of a quoted scalar and its closing quote. -/
def quotedFrom (double : Bool) : Nat → Cursor → Result (List Char × Cursor)
  | 0, _ => .error .malformed
  | fuel + 1, c =>
    let (run, c) := c.takeWhile fun ch => !interruptsQuoted ch
    let continueWith (part : List Char) (c : Cursor) : Result (List Char × Cursor) := do
      let (others, c) ← quotedFrom double fuel c
      return (run ++ part ++ others, c)
    match c.head? with
    | none => .error .malformed
    | some ch =>
      if ch == '\'' then
        if double then continueWith ['\''] c.next
        else if c.peek 1 == some '\'' then continueWith ['\''] (c.skip 2)
        else .ok (run, c.next)
      else if ch == '"' then
        if double then .ok (run, c.next) else continueWith ['"'] c.next
      else if ch == '\\' then
        if double then
          match escaped fuel c.next with
          | .ok (part, c) => continueWith part c
          | .error e => .error e
        else continueWith ['\\'] c.next
      else
        let (blanks, c) := c.takeWhile fun ch => ch == ' ' || ch == '\t'
        match c.lineBreak? with
        | some (b, c) =>
          match quotedBreaks fuel c with
          | .ok (others, c) => continueWith (foldBreak b others) c
          | .error e => .error e
        | none => if c.rest.isEmpty then .error .malformed else continueWith blanks c

/-- Reads a quoted scalar at its opening quote. -/
def quotedScalar (double : Bool) (c : Cursor) : Result (String × Cursor) := do
  let (text, c) ← quotedFrom double (c.rest.length + 1) c.next
  return (String.ofList text, c)

/-! ## Plain scalars -/

/-- Whether a plain scalar ends before a character, given the one behind it. -/
def endsPlain (inFlow : Bool) (ch : Char) (behind : Option Char) : Bool :=
  ch == ' ' || ch == '\t' || isBreak ch ||
    (ch == ':' && (isGap behind ||
      (inFlow && (behind.any fun b => b == ',' || b == '[' || b == ']' || b == '\x7b' ||
        b == '\x7d')))) ||
    (inFlow && (ch == ',' || ch == '?' || ch == '[' || ch == ']' || ch == '\x7b' ||
      ch == '\x7d'))

/-- The characters of a plain scalar up to a blank or its end. -/
def plainRun (inFlow : Bool) : List Char → List Char
  | [] => []
  | ch :: rest => if endsPlain inFlow ch rest.head? then [] else ch :: plainRun inFlow rest

/-- Blank lines inside a plain scalar; `none` when a document mark follows one. -/
def plainBreaks : Nat → Cursor → Option (List Char) × Cursor
  | 0, c => (some [], c)
  | fuel + 1, c =>
    let c := c.skipSpaces
    match c.lineBreak? with
    | some (b, c) =>
      if c.atDocumentMark then (none, c)
      else
        let (breaks, c) := plainBreaks fuel c
        (breaks.map (b :: ·), c)
    | none => (some [], c)

/-- What stands between two runs of a plain scalar, whether a line ended in it, and the place
behind it. -/
def plainGap (c : Cursor) : List Char × Bool × Cursor :=
  let (blanks, c) := c.takeWhile (· == ' ')
  match c.lineBreak? with
  | some (b, c) =>
    if c.atDocumentMark then ([], true, c)
    else
      match plainBreaks (c.rest.length + 1) c with
      | (some others, c) => (foldBreak b others, true, c)
      | (none, c) => ([], true, c)
  | none => (blanks, false, c)

/-- Reads the runs of a plain scalar; the flag says whether it ended behind a line break. -/
def plainFrom (inFlow : Bool) (indent : Int) :
    Nat → Bool → Cursor → List Char × Bool × Cursor
  | 0, broken, c => ([], broken, c)
  | fuel + 1, broken, c =>
    if c.head? == some '#' then ([], broken, c)
    else
      let run := plainRun inFlow c.rest
      if run.isEmpty then ([], broken, c)
      else
        let (gap, broken, c) := plainGap (c.skip run.length)
        if gap.isEmpty || c.head? == some '#' || (!inFlow && (c.column : Int) < indent) then
          (run, broken, c)
        else
          let (others, broken', c) := plainFrom inFlow indent fuel broken c
          (run ++ (if others.isEmpty then [] else gap) ++ others, broken', c)

/-- Reads a plain scalar that is indented by more than a column. -/
def plainScalar (inFlow : Bool) (indent : Int) (c : Cursor) : String × Bool × Cursor :=
  let (text, broken, c) := plainFrom inFlow (indent + 1) (c.rest.length + 1) false c
  (String.ofList text, broken, c)

/-! ## Block scalars -/

/-- What happens to the line breaks at the end of a block scalar. -/
inductive Chomping where
  | strip
  | clip
  | keep
  deriving DecidableEq, Repr

/-- The marks behind the sign of a block scalar: chomping and indentation, in either order. -/
def blockHeader (c : Cursor) : Result (Chomping × Option Nat × Cursor) :=
  let chomping? (c : Cursor) : Option (Chomping × Cursor) :=
    match c.head? with
    | some '+' => some (.keep, c.next)
    | some '-' => some (.strip, c.next)
    | _ => none
  let indent? (c : Cursor) : Option (Nat × Cursor) :=
    match c.head? with
    | some d => if Text.isAsciiDigit d then some (d.toNat - 0x30, c.next) else none
    | none => none
  let (chomping, indent, c) :=
    match chomping? c with
    | some (k, c) =>
      match indent? c with
      | some (n, c) => (k, some n, c)
      | none => (k, none, c)
    | none =>
      match indent? c with
      | some (n, c) =>
        match chomping? c with
        | some (k, c) => (k, some n, c)
        | none => (.clip, some n, c)
      | none => (.clip, none, c)
  if indent == some 0 || !endsWord c.head? then .error .malformed
  else
    let c := c.skipSpaces.skipComment
    match c.lineBreak? with
    | some (_, c) => .ok (chomping, indent, c)
    | none => if c.rest.isEmpty then .ok (chomping, indent, c) else .error .malformed

/-- The place behind spaces, at most up to a column. -/
def skipIndent (indent : Nat) (c : Cursor) : Cursor :=
  c.skip ((c.rest.takeWhile (· == ' ')).length.min (indent - c.column))

/-- Takes blank lines before a line with a known indentation. -/
def blockBreaks (indent : Nat) : Nat → Cursor → List Char × Cursor
  | 0, c => ([], c)
  | fuel + 1, c =>
    let c := skipIndent indent c
    match c.lineBreak? with
    | some (b, c) =>
      let (breaks, c) := blockBreaks indent fuel c
      (b :: breaks, c)
    | none => ([], c)

/-- Takes blank lines before the first line and finds the widest indentation among them and it. -/
def leadingBreaks : Nat → Nat → Cursor → List Char × Nat × Cursor
  | 0, widest, c => ([], widest, c)
  | fuel + 1, widest, c =>
    let c := c.skipSpaces
    let widest := max widest c.column
    match c.lineBreak? with
    | some (b, c) =>
      let (breaks, widest, c) := leadingBreaks fuel widest c
      (b :: breaks, widest, c)
    | none => ([], widest, c)

/-- Reads the lines of a block scalar, after the blank lines before the first.  The end of the
text is the last line break, if any, and the blank lines behind it. -/
def blockLines (folded : Bool) (indent : Nat) :
    Nat → List Char → Cursor → List Char × Option Char × List Char × Cursor
  | 0, breaks, c => ([], none, breaks, c)
  | fuel + 1, breaks, c =>
    if c.column != indent || c.rest.isEmpty then ([], none, breaks, c)
    else
      let indented (c : Cursor) : Bool := c.head? == some ' ' || c.head? == some '\t'
      let startsIndented := indented c
      let (line, c) := c.takeWhile fun ch => !isBreak ch
      let (last, c) :=
        match c.lineBreak? with
        | some (b, c) => (some b, c)
        | none => (none, c)
      let (others, c) := blockBreaks indent (c.rest.length + 1) c
      if c.column == indent && !c.rest.isEmpty then
        let joint :=
          if folded && last == some '\n' && !startsIndented && !indented c then
            if others.isEmpty then [' '] else []
          else last.toList
        let (text, last, tail, c) := blockLines folded indent fuel others c
        (breaks ++ line ++ joint ++ text, last, tail, c)
      else (breaks ++ line, last, others, c)

/-- Reads a block scalar at its sign, inside a collection that is indented by a column. -/
def blockScalar (folded : Bool) (indent : Int) (c : Cursor) : Result (String × Cursor) := do
  let (chomping, increment, c) ← blockHeader c.next
  let least := (max (indent + 1) 1).toNat
  let fuel := c.rest.length + 1
  let (indent, breaks, c) :=
    match increment with
    | some n =>
      let indent := least + n - 1
      let (breaks, c) := blockBreaks indent fuel c
      (indent, breaks, c)
    | none =>
      let (breaks, widest, c) := leadingBreaks fuel 0 c
      (max least widest, breaks, c)
  let (text, last, tail, c) := blockLines folded indent fuel breaks c
  let ending :=
    match chomping with
    | .strip => []
    | .clip => last.toList
    | .keep => last.toList ++ tail
  return (String.ofList (text ++ ending), c)

end Bazaar.Yaml
