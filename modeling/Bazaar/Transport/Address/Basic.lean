import Bazaar.Query.Percent
import Bazaar.Text.Ascii
import Bazaar.Text.Case
import Bazaar.Transport.Address.Written
import Bazaar.Transport.Host.Ip
import Bazaar.Transport.Host.Label

/-!
# Addresses

An address in its usual form: scheme and host in lower case, the host as an ASCII name, the usual
socket number of a scheme left out, no dots in the path, and every character that has no place where
it stands percent-encoded.  Put together again it reads as an address that has the same parts.
-/

namespace Bazaar

/-- An address in its usual form. -/
structure Address where
  scheme : List Char := []
  user : List Char := []
  host : List Char := []
  socket : Option Int := none
  path : List Char := []
  query : Option (List Char) := none
  fragment : Option (List Char) := none
  deriving DecidableEq, Repr

namespace Address

/-! ## Characters -/

/-- The characters of a text that are allowed where it stands; all others are percent-encoded. -/
def encodeOutside (allowed : Char → Bool) (cs : List Char) : List Char :=
  cs.flatMap fun c => if allowed c then [c] else (Text.utf8Char c).flatMap Percent.byteChars

/-- Printable ASCII but for some marks. -/
def printableBut (marks : String) (c : Char) : Bool :=
  ' ' ≤ c && c ≤ '~' && !marks.toList.contains c

/-- The characters of a path. -/
def isPathChar : Char → Bool :=
  printableBut " \"#<>?`\x7b\x7d"

/-- The characters of a query. -/
def isQueryChar : Char → Bool :=
  printableBut " \"#<>"

/-- The characters of a fragment. -/
def isFragmentChar : Char → Bool :=
  printableBut " \"<>`"

/-- The characters of a user with a password. -/
def isUserChar : Char → Bool :=
  printableBut " \"#<>?`\x7b\x7d/;=@[\\]^|"

/-- The characters of a host. -/
def isHostChar (c : Char) : Bool :=
  Percent.isUnreserved c || "!$&'()*+,;=\"`\x7b\x7d%|\\".toList.contains c

/-! ## Host and socket number -/

/-- The user before the last at sign, if there is one, and what follows it. -/
def splitUser (cs : List Char) : List Char × List Char :=
  match Text.cutAt? '@' cs.reverse with
  | some (rest, user) => (user.reverse, rest.reverse)
  | none => ([], cs)

/-- A host and what follows it.  A host in brackets ends with the last bracket, any other one before
a colon. -/
def splitHost (cs : List Char) : List Char × List Char :=
  match cs, Text.cutAt? ']' cs.reverse with
  | '[' :: _, some (rest, host) => ((']' :: host).reverse, rest.reverse)
  | _, _ => (cs.takeWhile (· != ':'), cs.dropWhile (· != ':'))

/-- What follows a host without the colon at its front. -/
def dropColon : List Char → List Char
  | ':' :: rest => rest
  | rest => rest

/-- Whether a host stands in brackets. -/
def isBracketed (cs : List Char) : Bool :=
  cs.head? == some '[' && cs.getLast? == some ']'

/-- A host in its usual form; the one in brackets comes without them. -/
def readHost (cs : List Char) : Except AddressFault (List Char) :=
  if Host.looksLikeFourNumbers cs then
    if Host.isFourNumbers cs then .ok cs else .error (.fourNumbers cs)
  else if isBracketed cs then
    let inside := (cs.drop 1).dropLast
    if Host.isGroups inside then .ok inside else .error (.groups cs)
  else if cs.all Text.isAscii then .ok (encodeOutside isHostChar (cs.map Char.toLower))
  else
    match Host.encodeName (Text.lower (String.ofList cs)).toList with
    | some name => .ok name
    | none => .error (.hostName cs)

/-- The socket numbers that need no mention. -/
def usualSockets : List (String × Int) :=
  [("ftp", 21), ("http", 80), ("https", 443), ("ws", 80), ("wss", 443)]

/-- A socket number, unless it is missing or the usual one of a scheme. -/
def readSocket (scheme cs : List Char) : Except AddressFault (Option Int) :=
  if cs.isEmpty then .ok none
  else
    match Text.int? cs with
    | none => .error (.socket cs)
    | some n =>
      .ok (if usualSockets.lookup (String.ofList scheme) == some n then none else some n)

/-! ## Path -/

/-- What a part of a path makes of the parts before it, which stand in reverse: one dot leaves them
alone, two dots take the last of them away. -/
def addPart (done : List (List Char)) (part : List Char) : List (List Char) :=
  if part == ['.'] then done
  else if part == ['.', '.'] then
    if done.isEmpty || done == [[]] then done else done.drop 1
  else part :: done

/-- The parts of a path without dots. -/
def dropDots (parts : List (List Char)) : List (List Char) :=
  (parts.foldl addPart []).reverse

/-- A path, encoded.  Behind a host it starts with a slash; with neither a scheme nor a host before
it, it must not look as if it had one.  Behind either it has no dots. -/
def readPath (hasScheme hasAuthority : Bool) (cs : List Char) : Except AddressFault (List Char) :=
  if hasAuthority && !cs.isEmpty && cs.head? != some '/' then .error .unrootedPath
  else if hasScheme || hasAuthority then
    .ok (encodeOutside isPathChar (Text.joinWith ['/'] (dropDots (Text.splitAt '/' cs))))
  else if Text.startsWith ['/', '/'] cs then .error .doubleSlash
  else if cs.head? == some ':' then .error .leadingColon
  else .ok (encodeOutside isPathChar cs)

/-! ## Reading -/

/-- The address of written parts. -/
def ofWritten (w : WrittenAddress) : Except AddressFault Address := do
  let (user, rest) := splitUser w.authority
  let (host, rest) := splitHost rest
  let user := encodeOutside isUserChar user
  let host ← readHost host
  let socket ← readSocket w.scheme (dropColon rest)
  let hasAuthority := !user.isEmpty || !host.isEmpty || socket.isSome
  let path ← readPath (!w.scheme.isEmpty) hasAuthority w.path
  return {
    scheme := w.scheme.map Char.toLower
    user := user
    host := host
    socket := socket
    path := path
    query := w.query.map (encodeOutside isQueryChar)
    fragment := w.fragment.map (encodeOutside isFragmentChar) }

/-- The address of a text. -/
def read (cs : List Char) : Except AddressFault Address := do
  ofWritten (← WrittenAddress.read cs)

/-- The address of parts that were changed. -/
def rebuild (w : WrittenAddress) : Except AddressFault Address := do
  w.check
  ofWritten w

/-! ## Writing -/

/-- A host with its socket number. -/
def hostChars (a : Address) : List Char :=
  (if a.host.contains ':' then '[' :: a.host ++ [']'] else a.host) ++
    (a.socket.map fun n => ':' :: (toString n).toList).getD []

/-- The parts of an address. -/
def written (a : Address) : WrittenAddress where
  scheme := a.scheme
  authority := (if a.user.isEmpty then [] else a.user ++ ['@']) ++ a.hostChars
  path := a.path
  query := a.query
  fragment := a.fragment

/-- A path with the query behind it; an empty path is a slash. -/
def pathAndQuery (a : Address) : List Char :=
  (if a.path.isEmpty then ['/'] else a.path) ++ (a.query.map ('?' :: ·)).getD []

/-- An address put together. -/
def chars (a : Address) : List Char :=
  let w := a.written
  (if w.scheme.isEmpty then [] else w.scheme ++ [':']) ++
    (if w.authority.isEmpty then [] else '/' :: '/' :: w.authority) ++ w.path ++
    (w.query.map ('?' :: ·)).getD [] ++ (w.fragment.map ('#' :: ·)).getD []

/-- The text of an address. -/
def text (a : Address) : String :=
  String.ofList a.chars

/-- The address with another path and query. -/
def withPathAndQuery (a : Address) (cs : List Char) : Except AddressFault Address :=
  let (path, query) := WrittenAddress.splitOff '?' cs
  rebuild { a.written with path := path, query := query }

end Address

end Bazaar
