import CounterArchive.Counter.Document
import CounterArchive.FileTree.Path
import CounterArchive.Gzip.File
import CounterArchive.Json.Reader
import CounterArchive.Text.Utf8

/-! The bytes of a snapshot: the document of a counter, in UTF-8, compressed. -/
namespace CounterArchive.Snapshot

def limits (nesting : Nat) : Json.Limits := ⟨some Numeral.digitLimit, nesting⟩

inductive Damage where
  | compression (fault : Gzip.Fault)
  | characters (fault : Utf8.Fault)
  | malformed (text : List Char) (flaw : Json.Flaw) (rest : List Char)
  | tooManyDigits (digits : Nat)
  | form (issues : List Json.Issue)
deriving DecidableEq

def Damage.message : Damage → String
  | .compression fault => fault.message
  | .characters fault => fault.message
  | .malformed text flaw rest => (Json.Failure.malformed flaw rest).message text
  | .tooManyDigits digits => (Json.Failure.tooManyDigits digits).message []
  | .form issues => ", ".intercalate (issues.map fun issue => issue.kind.code)

inductive Fault where
  | damaged (damage : Damage)
  /-- The reader gives up, whatever comes later. -/
  | tooDeep (container : Json.Container)
  /-- The document could not be checked to its end. -/
  | halted (cause : Json.Halt)
deriving DecidableEq

def ofJsonFailure (text : List Char) : Json.Failure → Fault
  | .malformed flaw rest => .damaged (.malformed text flaw rest)
  | .tooManyDigits digits => .damaged (.tooManyDigits digits)
  | .tooDeep container => .tooDeep container

def content (c : Counter) : List UInt8 := Utf8.encode c.text

def compressedSuffix : List Char := ".gz".toList

/-- Whether a character can stand in the name inside a compressed file: it fits into a byte, and
does not end the name. -/
def isInner (c : Char) : Bool := c ≠ '\x00' && c.toNat < 256

/-- The name inside a compressed file: that of the file without its ending, if each character can
stand there. -/
def innerName (path : String) : List UInt8 :=
  let name := (Path.lastName path).toList
  let dropped := if compressedSuffix.isSuffixOf name then compressedSuffix.length else 0
  if name.all isInner then (name.take (name.length - dropped)).map (·.toNat.toUInt8) else []

def encode (d : Gzip.Deflater) (stamp : UInt32) (path : String) (c : Counter) : List UInt8 :=
  Gzip.compress d stamp (innerName path) (content c)

/-- What is in the file of a snapshot that could not be stamped. -/
def broken (path : String) : List UInt8 := Gzip.opening (innerName path)

def ofRefusal : Json.Refusal → Fault
  | .issues all => .damaged (.form all)
  | .halted cause => .halted cause

def decodeText (nesting : Nat) (now : Option DateTime) (text : List Char) :
    Except Fault Counter :=
  match Json.read (limits nesting) text with
  | .error failure => .error (ofJsonFailure text failure)
  | .ok value => (Counter.ofJson now value).mapError ofRefusal

/-- The counter in a snapshot. Dates that it lacks are the present. -/
def decode (nesting : Nat) (now : Option DateTime) (bytes : List UInt8) : Except Fault Counter :=
  match Gzip.decompress bytes with
  | .error fault => .error (.damaged (.compression fault))
  | .ok content =>
    match Utf8.decode content with
    | .error fault => .error (.damaged (.characters fault))
    | .ok text => decodeText nesting now text

end CounterArchive.Snapshot
