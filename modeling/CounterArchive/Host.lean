import CounterArchive.Clock
import CounterArchive.Gzip.Deflater

/-! What the archive runs on and has to take as it is: a way of compressing, a library that runs jobs
at their times, and bounds for what calls itself again. -/
namespace CounterArchive

inductive Schedule where
  | every (seconds : Int)
  | daily (hour minute : Nat)
deriving DecidableEq

structure JobLibrary where
  /-- Why a job is not taken with a schedule, if it is not. -/
  refusal? : Clock → Schedule → Option String
  /-- Why jobs that were taken are not started, if they are not. -/
  stop? : Clock → Option String

def JobLibrary.objection? (library : JobLibrary) (clock : Clock) (schedules : List Schedule) :
    Option String :=
  (schedules.findSome? (library.refusal? clock)).or (library.stop? clock)

structure Host where
  deflater : Gzip.Deflater
  jobs : JobLibrary
  /-- How many arrays and objects may be open at once in a document that is read. -/
  nesting : Nat
  /-- How many directories can be made at once for one path. -/
  directories : Nat
  /-- There is room for the document of a counter, with its requests and their fields. -/
  roomForDocument : 3 ≤ nesting
  /-- There is room for the directory of an application in that of the archive. -/
  roomForArchive : 2 ≤ directories

end CounterArchive
