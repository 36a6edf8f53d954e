import Bazaar.Text.Line
import Bazaar.Transport.Address.Fault

/-!
# Addresses as they are written

The parts of an address before anything is made of them.  The text is cut at the marks between the
parts, so every text has parts; the parts of one that is too long or holds control characters are
refused.
-/

namespace Bazaar

/-- The parts of an address as they are written. -/
structure WrittenAddress where
  scheme : List Char := []
  authority : List Char := []
  path : List Char := []
  query : Option (List Char) := none
  fragment : Option (List Char) := none
  deriving DecidableEq, Repr

namespace WrittenAddress

/-! ## Cutting -/

/-- A character of a scheme. -/
def isSchemeChar (c : Char) : Bool :=
  c.isAlphanum || c == '+' || c == '.' || c == '-'

/-- Whether a text may stand before the first colon as a scheme; an empty one may. -/
def isScheme (cs : List Char) : Bool :=
  cs.all isSchemeChar && (cs.head?.map Char.isAlpha).getD true

/-- The scheme of an address and what follows it. -/
def splitScheme (cs : List Char) : List Char × List Char :=
  match Text.cutAt? ':' cs with
  | some (scheme, rest) => if isScheme scheme then (scheme, rest) else ([], cs)
  | none => ([], cs)

/-- The text before a mark and, if there is one, the text behind it. -/
def splitOff (mark : Char) (cs : List Char) : List Char × Option (List Char) :=
  match Text.cutAt? mark cs with
  | some (before, behind) => (before, some behind)
  | none => (cs, none)

/-- The authority at the front of a text, behind two slashes, and the path. -/
def splitAuthority : List Char → List Char × List Char
  | '/' :: '/' :: rest => (rest.takeWhile (· != '/'), rest.dropWhile (· != '/'))
  | rest => ([], rest)

/-- Cuts a text into the parts of an address. -/
def ofChars (cs : List Char) : WrittenAddress :=
  let (cs, fragment) := splitOff '#' cs
  let (cs, query) := splitOff '?' cs
  let (scheme, rest) := splitScheme cs
  let (authority, path) := splitAuthority rest
  ⟨scheme, authority, path, query, fragment⟩

/-! ## Checking -/

/-- The most characters that an address or a part of one may have. -/
def maxLength : Nat := 65536

/-- Whether a character is an ASCII control character. -/
def isControl (c : Char) : Bool :=
  c.toNat < 0x20 || c.toNat == 0x7F

/-- Checks a text for its length and for control characters. -/
def checkText (part : Option AddressPart) (cs : List Char) : Except AddressFault Unit :=
  if maxLength < cs.length then .error ((part.map .partTooLong).getD .tooLong)
  else
    match cs.find? isControl with
    | some c => .error (.control part c (cs.takeWhile (!isControl ·)).length)
    | none => .ok ()

/-- The address that a text is cut into, if nothing is wrong with the text. -/
def read (cs : List Char) : Except AddressFault WrittenAddress := do
  checkText none cs
  return ofChars cs

/-- Checks the parts one by one. -/
def check (w : WrittenAddress) : Except AddressFault Unit := do
  checkText (some .scheme) w.scheme
  checkText (some .authority) w.authority
  checkText (some .path) w.path
  checkText (some .query) (w.query.getD [])
  checkText (some .fragment) (w.fragment.getD [])

end WrittenAddress

end Bazaar
