import Bazaar.Failure.Fault

/-!
# Faults of an address

Why a text is no address.
-/

namespace Bazaar

/-- The parts of an address. -/
inductive AddressPart where
  | scheme
  | authority
  | path
  | query
  | fragment
  deriving DecidableEq, Repr

/-- The word for a part. -/
def AddressPart.name : AddressPart → String
  | .scheme => "scheme"
  | .authority => "authority"
  | .path => "path"
  | .query => "query"
  | .fragment => "fragment"

/-- Why a text is no address. -/
inductive AddressFault where
  | tooLong
  | partTooLong (part : AddressPart)
  | control (part : Option AddressPart) (c : Char) (position : Nat)
  | socket (text : List Char)
  | fourNumbers (host : List Char)
  | groups (host : List Char)
  | hostName (host : List Char)
  | unrootedPath
  | doubleSlash
  | leadingColon
  deriving DecidableEq, Repr

namespace AddressFault

/-- The wording of a fault. -/
def message : AddressFault → String
  | .tooLong => "URL too long"
  | .partTooLong part => "URL component '" ++ part.name ++ "' too long"
  | .control part c position =>
    "Invalid non-printable ASCII character in URL" ++
      ((part.map fun part => " " ++ part.name ++ " component").getD "") ++ ", " ++
      Text.quoted (String.singleton c) ++ " at position " ++ toString position ++ "."
  | .socket text => "Invalid port: " ++ Text.quoted (String.ofList text)
  | .fourNumbers host => "Invalid IPv4 address: " ++ Text.quoted (String.ofList host)
  | .groups host => "Invalid IPv6 address: " ++ Text.quoted (String.ofList host)
  | .hostName host => "Invalid IDNA hostname: " ++ Text.quoted (String.ofList host)
  | .unrootedPath => "For absolute URLs, path must be empty or begin with '/'"
  | .doubleSlash => "Relative URLs cannot have a path starting with '//'"
  | .leadingColon => "Relative URLs cannot have a path starting with ':'"

/-- A fault of an address as one of the transport. -/
def toFault (fault : AddressFault) : Fault :=
  Fault.simple .address fault.message

end AddressFault

end Bazaar
