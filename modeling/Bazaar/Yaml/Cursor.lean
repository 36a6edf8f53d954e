/-!
# A place in a YAML text

The characters that are left at a place, with its line and column.  The end of the text is where
no character is left.
-/

namespace Bazaar.Yaml

/-- Whether a character ends a line. -/
def isBreak (c : Char) : Bool :=
  c == '\n' || c == '\r' || c == '\u0085' || c == '\u2028' || c == '\u2029'

/-- Whether a character may stand in a YAML text at all. -/
def isAllowed (c : Char) : Bool :=
  let n := c.toNat
  n == 0x09 || n == 0x0A || n == 0x0D || (0x20 ≤ n && n ≤ 0x7E) || n == 0x85 ||
    (0xA0 ≤ n && n ≤ 0xD7FF) || (0xE000 ≤ n && n ≤ 0xFFFD) || 0x10000 ≤ n

/-- Whether a place is the end of the text or of a line. -/
def endsLine (c : Option Char) : Bool :=
  match c with
  | none => true
  | some c => isBreak c

/-- Whether a place is the end of the text or of a line, or a space. -/
def endsWord (c : Option Char) : Bool :=
  endsLine c || c == some ' '

/-- Whether a place is the end of the text or of a line, a space or a tab. -/
def isGap (c : Option Char) : Bool :=
  endsWord c || c == some '\t'

/-- A place in a text. -/
structure Cursor where
  rest : List Char
  index : Nat := 0
  line : Nat := 0
  column : Nat := 0

namespace Cursor

/-- The character some places ahead. -/
def peek (c : Cursor) (ahead : Nat) : Option Char :=
  c.rest[ahead]?

/-- The character at the place. -/
def head? (c : Cursor) : Option Char :=
  c.rest.head?

/-- The place one character on.  A carriage return before a line feed does not end the line, and a
byte-order mark takes no column. -/
def next (c : Cursor) : Cursor :=
  match c.rest with
  | [] => c
  | ch :: rest =>
    if isBreak ch && !(ch == '\r' && rest.head? == some '\n') then
      ⟨rest, c.index + 1, c.line + 1, 0⟩
    else
      ⟨rest, c.index + 1, c.line, if ch == '\uFEFF' then c.column else c.column + 1⟩

/-- The place some characters on. -/
def skip (c : Cursor) : Nat → Cursor
  | 0 => c
  | n + 1 => c.next.skip n

/-- The characters at the front for which a condition holds, and the place behind them. -/
def takeWhile (p : Char → Bool) (c : Cursor) : List Char × Cursor :=
  let taken := c.rest.takeWhile p
  (taken, c.skip taken.length)

/-- The place behind the characters for which a condition holds. -/
def skipWhile (p : Char → Bool) (c : Cursor) : Cursor :=
  (c.takeWhile p).2

/-- The place behind spaces. -/
def skipSpaces (c : Cursor) : Cursor :=
  c.skipWhile (· == ' ')

/-- The place behind a comment, if there is one. -/
def skipComment (c : Cursor) : Cursor :=
  if c.head? == some '#' then c.skipWhile fun ch => !isBreak ch else c

/-- Takes a line break: what it counts as, and the place behind it. -/
def lineBreak? (c : Cursor) : Option (Char × Cursor) :=
  match c.rest with
  | '\r' :: '\n' :: _ => some ('\n', c.skip 2)
  | ch :: _ =>
    if ch == '\u2028' || ch == '\u2029' then some (ch, c.next)
    else if isBreak ch then some ('\n', c.next)
    else none
  | [] => none

/-- Whether the place starts with three equal marks that stand alone. -/
def hasMarks (mark : Char) (c : Cursor) : Bool :=
  match c.rest with
  | a :: b :: d :: rest => a == mark && b == mark && d == mark && isGap rest.head?
  | _ => false

/-- Whether the place starts with the mark of the start or the end of a document. -/
def atDocumentMark (c : Cursor) : Bool :=
  c.hasMarks '-' || c.hasMarks '.'

end Cursor

end Bazaar.Yaml
