import CounterArchive.Binary64
import CounterArchive.Settings

/-! How long snapshots are kept. A snapshot is obsolete when it is older than a number of days and
one day more. -/
namespace CounterArchive.Retention

def defaultDays : Int := 365

inductive Fault where
  | noInteger (text : String)
  | notPositive
deriving DecidableEq

def Fault.message : Fault → String
  | .noInteger text =>
    "The parameter OBSOLETE_STATS_DAYS should be an integer, got " ++ Text.quoted text
  | .notPositive => "The parameter OBSOLETE_STATS_DAYS should be > 0 (365 recommended)"

def days : Option String → Except Fault Int
  | none => .ok defaultDays
  | some text =>
    match Numeral.readSigned Text.decimalDigit? text.toList with
    | .error _ => .error (.noInteger text)
    | .ok days => if days ≤ 0 then .error .notPositive else .ok days

def dayMillis : Int := 24 * 60 * 60 * 1000

/-- The whole milliseconds of a time in seconds. The product is one of floating-point numbers. -/
def millis (now : Binary64) : Except Binary64.Unbounded Int := (now.scale 1000).truncate

/-- Files that were changed before this, in milliseconds, are obsolete. -/
def cutoff (now days : Int) : Int := now - (days + 1) * dayMillis

def isObsolete (cutoff modified : Int) : Bool := modified.fdiv 1000000 < cutoff

end CounterArchive.Retention
