/-!
# Classes of fault

The classes into which faults fall, with their names in messages; and refusals, with which a thing
is not even begun, because what it was asked to work with will not do.
-/

namespace Bazaar

/-- The classes of fault. -/
inductive FaultClass where
  | connectTimeout
  | readTimeout
  | writeTimeout
  | poolTimeout
  | timeout
  | connect
  | readError
  | writeError
  | closeError
  | network
  | proxy
  | unsupportedProtocol
  | localProtocol
  | remoteProtocol
  | protocol
  | transport
  | decoding
  | tooManyRedirects
  | request
  | http
  | resolver
  | runtime
  | value
  | os
  | key
  | type
  | index
  | attribute
  | overflow
  | recursion
  | json
  | markup
  | address
  | encoding
  | undecodable
  | unicode
  | hostName
  | hostCharacter
  | hostNeighbour
  | hostDirection
  | assertion
  | fileMissing
  | fileExists
  | fileIsDirectory
  | fileNotDirectory
  deriving DecidableEq, Repr

namespace FaultClass

/-- The classes that a transport raises. -/
def all : List FaultClass :=
  [.connectTimeout, .readTimeout, .writeTimeout, .poolTimeout, .timeout, .connect, .readError,
   .writeError, .closeError, .network, .proxy, .unsupportedProtocol, .localProtocol,
   .remoteProtocol, .protocol, .transport, .decoding, .tooManyRedirects, .request, .http,
   .resolver, .runtime, .value, .os, .key]

/-- The name of a class in messages. -/
def name : FaultClass → String
  | .connectTimeout => "ConnectTimeout"
  | .readTimeout => "ReadTimeout"
  | .writeTimeout => "WriteTimeout"
  | .poolTimeout => "PoolTimeout"
  | .timeout => "TimeoutException"
  | .connect => "ConnectError"
  | .readError => "ReadError"
  | .writeError => "WriteError"
  | .closeError => "CloseError"
  | .network => "NetworkError"
  | .proxy => "ProxyError"
  | .unsupportedProtocol => "UnsupportedProtocol"
  | .localProtocol => "LocalProtocolError"
  | .remoteProtocol => "RemoteProtocolError"
  | .protocol => "ProtocolError"
  | .transport => "TransportError"
  | .decoding => "DecodingError"
  | .tooManyRedirects => "TooManyRedirects"
  | .request => "RequestError"
  | .http => "HTTPError"
  | .resolver => "gaierror"
  | .runtime => "RuntimeError"
  | .value => "ValueError"
  | .os => "OSError"
  | .key => "KeyError"
  | .type => "TypeError"
  | .index => "IndexError"
  | .attribute => "AttributeError"
  | .overflow => "OverflowError"
  | .recursion => "RecursionError"
  | .json => "JSONDecodeError"
  | .markup => "YAMLError"
  | .address => "InvalidURL"
  | .encoding => "UnicodeEncodeError"
  | .undecodable => "UnicodeDecodeError"
  | .unicode => "UnicodeError"
  | .hostName => "IDNAError"
  | .hostCharacter => "InvalidCodepoint"
  | .hostNeighbour => "InvalidCodepointContext"
  | .hostDirection => "IDNABidiError"
  | .assertion => "AssertionError"
  | .fileMissing => "FileNotFoundError"
  | .fileExists => "FileExistsError"
  | .fileIsDirectory => "IsADirectoryError"
  | .fileNotDirectory => "NotADirectoryError"

/-- The class of a name. -/
def ofName? (s : String) : Option FaultClass :=
  all.find? (·.name == s)

/-- Whether a deadline of the transport has passed. -/
def isTimeout : FaultClass → Bool
  | .connectTimeout | .readTimeout | .writeTimeout | .poolTimeout | .timeout => true
  | _ => false

/-- Whether the connection failed. -/
def isNetwork : FaultClass → Bool
  | .connect | .readError | .writeError | .closeError | .network => true
  | _ => false

/-- Whether the fault belongs to the exchange of requests and answers at all. -/
def isExchange : FaultClass → Bool
  | .connectTimeout | .readTimeout | .writeTimeout | .poolTimeout | .timeout | .connect
  | .readError | .writeError | .closeError | .network | .proxy | .unsupportedProtocol
  | .localProtocol | .remoteProtocol | .protocol | .transport | .decoding | .tooManyRedirects
  | .request | .http => true
  | _ => false

/-- Whether the fault is one by which the system, a type or a rule refuses what was asked for. -/
def isRefusal : FaultClass → Bool
  | .os | .resolver | .fileMissing | .fileExists | .fileIsDirectory | .fileNotDirectory | .type
  | .value | .encoding | .undecodable | .unicode | .hostName | .hostCharacter | .hostNeighbour
  | .hostDirection => true
  | _ => false

end FaultClass

/-- Why something was not begun: the class of the fault and its wording. -/
structure Refusal where
  kind : FaultClass
  message : String
  deriving DecidableEq, Repr

end Bazaar
