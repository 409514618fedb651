import CounterArchive.Text.Quoted

/-! What can be wrong with compressed bytes. -/
namespace CounterArchive.Gzip

inductive Flaw where
  | blockType
  | storedLengths
  | tooManySymbols
  | lengthCode
  | lengthRepeat
  | noEndOfBlock
  | literalCode
  | distanceCode
  | literalSymbol
  | distanceSymbol
  | distanceTooFar
deriving DecidableEq

def Flaw.message : Flaw → String
  | .blockType => "invalid block type"
  | .storedLengths => "invalid stored block lengths"
  | .tooManySymbols => "too many length or distance symbols"
  | .lengthCode => "invalid code lengths set"
  | .lengthRepeat => "invalid bit length repeat"
  | .noEndOfBlock => "invalid code -- missing end-of-block"
  | .literalCode => "invalid literal/lengths set"
  | .distanceCode => "invalid distances set"
  | .literalSymbol => "invalid literal/length code"
  | .distanceSymbol => "invalid distance code"
  | .distanceTooFar => "invalid distance too far back"

inductive Fault where
  /-- The bytes end too early. -/
  | truncated
  | corrupt (flaw : Flaw)
  /-- A member begins with other bytes than it should. -/
  | notGzip (start : List UInt8)
  | unknownMethod
  | wrongChecksum (stored computed : UInt32)
  | wrongLength
deriving DecidableEq

def checksumText (crc : UInt32) : String :=
  "0x" ++ String.ofList (Numeral.hexadecimal crc.toNat)

def Fault.message : Fault → String
  | .truncated => "Compressed file ended before the end-of-stream marker was reached"
  | .corrupt flaw => "Error -3 while decompressing data: " ++ flaw.message
  | .notGzip start => "Not a gzipped file (" ++ Text.quotedBytes start ++ ")"
  | .unknownMethod => "Unknown compression method"
  | .wrongChecksum stored computed =>
    "CRC check failed " ++ checksumText stored ++ " != " ++ checksumText computed
  | .wrongLength => "Incorrect length of data produced"

end CounterArchive.Gzip
