import CounterArchive.Calendar.Instant
import CounterArchive.Json.Basic
import CounterArchive.Settings

/-! Where and when a connection was opened: the time, the thread, and the callers that are not
part of this package. -/
namespace CounterArchive.Connection

/-- A caller, by the place in it where the call stands. -/
structure Frame where
  moduleName : String
  file : String
  line : Int
  function : String
deriving DecidableEq

namespace Frame

def text (f : Frame) : String :=
  f.moduleName ++ "." ++ f.function ++ "(" ++ f.file ++ ":" ++ Numeral.signedText f.line ++ ")"

def toJson (f : Frame) : Json :=
  .object [("module", .string f.moduleName), ("filename", .string f.file), ("lineno", .int f.line),
    ("function", .string f.function)]

def isOwn (f : Frame) : Bool :=
  f.moduleName = Settings.defaultName ||
    (Settings.defaultName ++ ".").toList.isPrefixOf f.moduleName.toList

end Frame

/-- A caller as it is found on the stack, where its module may have no name. -/
structure Caller where
  moduleName : Option String
  file : String
  line : Int
  function : String
deriving DecidableEq

/-- A module without a name gets the empty one. -/
def Caller.frame (c : Caller) : Frame := ⟨c.moduleName.getD "", c.file, c.line, c.function⟩

/-- How a connection makes itself known: it is captured, or made at once. -/
inductive Entry where
  | captured
  | made
deriving DecidableEq

def ownFrame (function : String) : Frame := ⟨Settings.defaultName ++ ".connection", "", 0, function⟩

/-- The frames of the package above the caller, the innermost first. -/
def Entry.frames : Entry → List Frame
  | .captured => [ownFrame "make", ownFrame "capture"]
  | .made => [ownFrame "make"]

structure Opening where
  /-- Whole milliseconds from the beginning of 1970. -/
  time : Int
  thread : Int
  stack : List Frame
deriving DecidableEq

namespace Opening

/-- The opening at a time in seconds. No frames are kept where stack traces are disabled. -/
def record (entry : Entry) (disabled : Bool) (seconds : Binary64) (thread : Int)
    (callers : List Frame) : Except Binary64.Unbounded Opening := do
  return ⟨← (seconds.scale 1000).truncate, thread,
    if disabled then [] else entry.frames ++ callers⟩

/-- The callers from the first one on that is not of the package. -/
def stackTrace (o : Opening) : List Frame := o.stack.tail.dropWhile Frame.isOwn

/-- The time as a date. It is taken to seconds in floating-point arithmetic. -/
def date (o : Opening) : Except DateTime.RangeFault DateTime :=
  match Binary64.ofRat (o.time / 1000) with
  | .finite seconds => DateTime.ofSeconds seconds
  | _ => .error .beyondSeconds

def text (o : Opening) : Except DateTime.RangeFault String := do
  let date ← o.date
  return "ConnectionInformations[openingDate=" ++ String.ofList (date.text DateTime.inLine) ++
    ", threadId=" ++ Numeral.signedText o.thread ++ "]"

def report (o : Opening) : Except DateTime.RangeFault Json := do
  let date ← o.date
  return .object [("opening_date", .string (String.ofList (date.text DateTime.report))),
    ("thread_id", .int o.thread), ("opening_stack_trace", .array (o.stackTrace.map Frame.toJson))]

end Opening

end CounterArchive.Connection
