import CounterArchive.Binary64
import CounterArchive.Calendar.DateTime

/-! The date and time, in universal time, of an instant that is given in seconds from the
beginning of 1970 as a floating-point number. It is rounded to microseconds, a half to the even
neighbour. -/
namespace CounterArchive.DateTime

inductive RangeFault where
  /-- Its whole seconds lie beyond the range of 64-bit numbers. -/
  | beyondSeconds
  /-- Its year, less 1900, does not fit into 32 bits. -/
  | beyondYears
  /-- Its year, which is counted in 32 bits, is none of the calendar. -/
  | outsideCalendar (year : Int)
deriving DecidableEq

def RangeFault.message : RangeFault → String
  | .beyondSeconds => "timestamp out of range for platform time_t"
  | .beyondYears => "[Errno 75] Value too large for defined data type"
  | .outsideCalendar year => "year " ++ Numeral.signedText year ++ " is out of range"

/-- Whole seconds and microseconds. The part of a second is scaled in floating-point arithmetic,
and may be rounded up to a whole one. -/
def splitSeconds (seconds : Rat) : Int × Nat :=
  let whole := Binary64.truncateRat seconds
  let micros :=
    match Binary64.ofRat ((seconds - whole) * 1000000) with
    | .finite part => Binary64.roundHalfEven part
    | _ => 0
  if 1000000 ≤ micros then (whole + 1, (micros - 1000000).toNat)
  else if micros < 0 then (whole - 1, (micros + 1000000).toNat)
  else (whole, micros.toNat)

/-- The range of 64-bit numbers as floating-point ones see it: the greatest of them is rounded to
the bound. -/
def secondsBound : Nat := Nat.pow 2 63

def fitsBits (bits : Nat) (n : Int) : Bool := -Nat.pow 2 (bits - 1) ≤ n && n < Nat.pow 2 (bits - 1)

def ofSeconds (seconds : Rat) : Except RangeFault DateTime :=
  let (whole, micros) := splitSeconds seconds
  let year := Date.yearOf (epochDay + whole.fdiv 86400)
  if secondsBound < whole.natAbs then .error .beyondSeconds
  else if !fitsBits 32 (year - 1900) then .error .beyondYears
  else
    match ofEpochMicros? (whole * 1000000 + micros) with
    | some t => .ok t
    | none => .error (.outsideCalendar (year.bmod (Nat.pow 2 32)))

end CounterArchive.DateTime
