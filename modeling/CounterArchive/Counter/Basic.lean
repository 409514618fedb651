import CounterArchive.Calendar.DateTime
import CounterArchive.Table

/-! Counters: what is known about the requests that a component of an application has served, and
about the latest errors in it, since a date. -/
namespace CounterArchive

structure Request where
  name : String
  hits : Int := 0
  /-- The sum of all durations, in milliseconds. -/
  durations : Int := 0
  systemErrors : Int := 0
deriving DecidableEq

namespace Request

/-- The mean duration, rounded down, or -1 if there was no hit. -/
def mean (r : Request) : Int := if r.hits = 0 then -1 else r.durations.fdiv r.hits

def addHit (r : Request) (duration : Int) (systemError : Bool) : Request :=
  { r with
    hits := r.hits + 1
    durations := r.durations + duration
    systemErrors := r.systemErrors + systemError.toNat }

end Request

structure Incident where
  time : DateTime
  message : String
  requestName : Option String
  remoteUser : Option String
deriving DecidableEq

structure Counter where
  name : String
  application : String
  storageName : Option String
  startDate : DateTime
  requests : Table String Request
  errors : List Incident
deriving DecidableEq

namespace Counter

def fresh (name application : String) (startDate : DateTime) : Counter :=
  ⟨name, application, none, startDate, .empty, []⟩

/-- The name under which a counter is stored: its own name, unless another one is set. -/
def storedAs (c : Counter) : String :=
  match c.storageName with
  | none => c.name
  | some name => if name = "" then c.name else name

def isUnused (c : Counter) : Bool := c.requests.entries.isEmpty && c.errors.isEmpty

def addHits (c : Counter) (request : String) (duration : Int) (systemError : Bool) : Counter :=
  let before := (c.requests.get? request).getD { name := request }
  { c with requests := c.requests.insert request (before.addHit duration systemError) }

/-- How many errors a counter remembers when it gets another one. -/
def errorWindow : Nat := 100

def lastOf {α : Type} (count : Nat) (items : List α) : List α := items.drop (items.length - count)

def addError (c : Counter) (incident : Incident) : Counter :=
  { c with errors := lastOf errorWindow (c.errors ++ [incident]) }

def forget (c : Counter) : Counter := { c with requests := .empty, errors := [] }

def clear (c : Counter) (now : DateTime) : Counter := { c.forget with startDate := now }

end Counter

end CounterArchive
