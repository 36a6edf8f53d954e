/-!
# Faults of compressed data

What is wrong with compressed data.  Data that merely ends too early is not at fault: what it says
up to its end stands.
-/

namespace Bazaar.Compression

/-- What is wrong with compressed data. -/
inductive Fault where
  | header
  | method
  | window
  | headerFlags
  | headerChecksum
  | dictionary
  | blockKind
  | storedLengths
  | tooManyCodes
  | codeLengths
  | lengthRepeat
  | noEndOfBlock
  | literalLengths
  | distanceLengths
  | literalCode
  | distanceCode
  | distance
  | checksum
  | length
  deriving DecidableEq, Repr

/-- The detail of a fault; a missing dictionary has none. -/
def Fault.detail? : Fault → Option String
  | .header => some "incorrect header check"
  | .method => some "unknown compression method"
  | .window => some "invalid window size"
  | .headerFlags => some "unknown header flags set"
  | .headerChecksum => some "header crc mismatch"
  | .dictionary => none
  | .blockKind => some "invalid block type"
  | .storedLengths => some "invalid stored block lengths"
  | .tooManyCodes => some "too many length or distance symbols"
  | .codeLengths => some "invalid code lengths set"
  | .lengthRepeat => some "invalid bit length repeat"
  | .noEndOfBlock => some "invalid code -- missing end-of-block"
  | .literalLengths => some "invalid literal/lengths set"
  | .distanceLengths => some "invalid distances set"
  | .literalCode => some "invalid literal/length code"
  | .distanceCode => some "invalid distance code"
  | .distance => some "invalid distance too far back"
  | .checksum => some "incorrect data check"
  | .length => some "incorrect length check"

/-- The wording of a fault. -/
def Fault.message (fault : Fault) : String :=
  match fault.detail? with
  | some detail => "Error -3 while decompressing data: " ++ detail
  | none => "Error 2 while decompressing data"

/-- Why data cannot be read on: it ends, or it is at fault. -/
inductive Stop where
  | ended
  | fault (fault : Fault)
  deriving DecidableEq, Repr

end Bazaar.Compression
