import CounterArchive.Calendar.Date
import CounterArchive.Numeral

/-! A date with a time of day, to the microsecond, and perhaps the offset of its time zone. One
without an offset names no instant. -/
namespace CounterArchive

structure TimeOfDay where
  hour : Nat
  minute : Nat
  second : Nat
  microsecond : Nat
  inDay : hour < 24 ∧ minute < 60 ∧ second < 60 ∧ microsecond < 1000000
deriving DecidableEq

/-- How far a time zone is ahead of universal time, in microseconds: less than a day either way. -/
structure Offset where
  micros : Int
  withinDay : -86400000000 < micros ∧ micros < 86400000000
deriving DecidableEq

structure DateTime where
  date : Date
  time : TimeOfDay
  offset : Option Offset
deriving DecidableEq

namespace TimeOfDay

def of? (hour minute second microsecond : Nat) : Option TimeOfDay :=
  if h : hour < 24 ∧ minute < 60 ∧ second < 60 ∧ microsecond < 1000000 then
    some ⟨hour, minute, second, microsecond, h⟩
  else none

theorem of?_fields (t : TimeOfDay) : of? t.hour t.minute t.second t.microsecond = some t := by
  simp only [of?, t.inDay, and_self, dite_true]

def midnight : TimeOfDay := ⟨0, 0, 0, 0, by decide⟩

/-- The time so many microseconds after midnight, whole days apart. -/
def ofMicros (n : Nat) : TimeOfDay where
  hour := n / 3600000000 % 24
  minute := n / 60000000 % 60
  second := n / 1000000 % 60
  microsecond := n % 1000000
  inDay := by omega

def toMicros (t : TimeOfDay) : Nat :=
  ((t.hour * 60 + t.minute) * 60 + t.second) * 1000000 + t.microsecond

end TimeOfDay

namespace Offset

def utc : Offset := ⟨0, by decide⟩

def ofMinutes? (minutes : Int) : Option Offset :=
  if h : -86400000000 < 60000000 * minutes ∧ 60000000 * minutes < 86400000000 then
    some ⟨60000000 * minutes, h⟩
  else none

/-- The size in seconds, a half being rounded up. -/
def seconds (o : Offset) : Nat := (o.micros.natAbs + 500000) / 1000000

/-- The offset has whole minutes, as it is written. -/
def Whole (o : Offset) : Prop := o.micros % 60000000 = 0

instance (o : Offset) : Decidable o.Whole := inferInstanceAs (Decidable (_ = _))

end Offset

namespace DateTime

def microsPerDay : Nat := 86400000000

/-- The first day of 1970, counted from the first day of the year 1. -/
def epochDay : Nat := 719162

/-- The instant so many microseconds after the beginning of 1970, in universal time. There is
none outside the years 1 to 9999. -/
def ofEpochMicros? (n : Int) : Option DateTime :=
  let shifted := n + epochDay * microsPerDay
  if shifted < 0 then none
  else
    (Date.ofDay? (shifted.toNat / microsPerDay)).map fun date =>
      ⟨date, .ofMicros (shifted.toNat % microsPerDay), some .utc⟩

/-- The microseconds from the beginning of 1970 to the date and time, read in universal time. -/
def localMicros (t : DateTime) : Int :=
  (t.date.toDay * microsPerDay + t.time.toMicros : Nat) - (epochDay * microsPerDay : Nat)

/-- How a date and time is laid out: what stands between the two, and what marks universal
time. -/
structure Layout where
  separator : Char
  utcMark : List Char

def stored : Layout := ⟨'T', ['Z']⟩

def report : Layout := ⟨'T', "+00:00".toList⟩

def inLine : Layout := ⟨' ', "+00:00".toList⟩

def twoDigits (n : Nat) : List Char := Numeral.padded 2 (Numeral.decimal n)

def dateText (d : Date) : List Char :=
  Numeral.padded 4 (Numeral.decimal d.year) ++ '-' :: twoDigits d.month ++ '-' :: twoDigits d.day

def timeText (t : TimeOfDay) : List Char :=
  twoDigits t.hour ++ ':' :: twoDigits t.minute ++ ':' :: twoDigits t.second ++
    if t.microsecond = 0 then [] else '.' :: Numeral.padded 6 (Numeral.decimal t.microsecond)

/-- Hours and minutes. What an offset has beyond whole minutes is lost. -/
def offsetText (layout : Layout) (o : Offset) : List Char :=
  if o.seconds = 0 then layout.utcMark
  else
    (if o.micros < 0 then '-' else '+') :: twoDigits (o.seconds / 60 / 60) ++
      ':' :: twoDigits (o.seconds / 60 % 60)

def text (layout : Layout) (t : DateTime) : List Char :=
  dateText t.date ++ layout.separator :: timeText t.time ++
    match t.offset with
    | none => []
    | some o => offsetText layout o

end DateTime

end CounterArchive
