import Bazaar.Failure.Fault
import Bazaar.Transport.Address.Basic
import Bazaar.Transport.Answer

/-!
# Redirections

Some answers name another address to turn to.  Nobody turns to it, but it has to be one.
-/

namespace Bazaar

namespace Address

/-- The host of an address; one that stands for a name of another script as that name. -/
def hostName (a : Address) : Except Fault (List Char) :=
  if Text.startsWith "xn--".toList a.host then
    (Host.decodeName a.host).mapError Host.NameFault.toFault
  else .ok a.host

/-- The address with the host of another one, if it says how to reach a host but names none. -/
def withHostOf (a sender : Address) : Except Fault Address := do
  if a.scheme.isEmpty || !(← a.hostName).isEmpty then return a
  let host ← sender.hostName
  if host.isEmpty then return a
  let named := { a with host := host }
  (rebuild named.written).mapError AddressFault.toFault

/-- The address read once more as it is written, unless it says how to reach a host and names
one. -/
def readAgain (a : Address) : Except Fault Address :=
  if !a.scheme.isEmpty && !a.host.isEmpty then .ok a
  else (read a.chars).mapError AddressFault.toFault

/-- The address with the fragment of another one, decoded, if it has none itself.  An empty one is
the other one. -/
def withFragmentOf (a sender : Address) : Except Fault Address :=
  let fragment := (Percent.decode (String.ofList (sender.fragment.getD []))).toList
  if fragment.isEmpty || !(a.fragment.getD []).isEmpty || a.chars.isEmpty then .ok a
  else (rebuild { a.written with fragment := some fragment }).mapError AddressFault.toFault

end Address

namespace Redirection

/-- The statuses of answers that name another address. -/
def statuses : List Int := [301, 302, 303, 307, 308]

/-- The address that an answer to a request names, if it names one. -/
def location? (a : Answer) : Option String :=
  if statuses.contains a.status then a.header? "location" else none

/-- The wording of a location that is no address. -/
def badLocation (fault : AddressFault) : String :=
  "Invalid URL in location header: " ++ fault.message ++ "."

/-- Checks the address that an answer names, given the address of the request. -/
def check (sender : Address) (a : Answer) : Except Fault Unit :=
  match location? a with
  | none => .ok ()
  | some location =>
    match Address.read location.toList with
    | .error fault => .error (Fault.simple .remoteProtocol (badLocation fault))
    | .ok target => do
      let target ← (← target.withHostOf sender).readAgain
      let target ← target.withFragmentOf sender
      let _ ← target.hostName
      let _ ← sender.hostName
      return ()

end Redirection

end Bazaar
