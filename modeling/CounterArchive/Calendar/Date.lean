/-! Dates of the Gregorian calendar, carried back to the year 1. Days are counted from the first
day of the year 1, which is day 0. -/
namespace CounterArchive

def isLeap (year : Nat) : Bool := year % 4 = 0 && (year % 100 ≠ 0 || year % 400 = 0)

/-- The length of a month; what is no month has no days. -/
def daysInMonth (year month : Nat) : Nat :=
  if month = 2 then if isLeap year then 29 else 28
  else if month = 4 ∨ month = 6 ∨ month = 9 ∨ month = 11 then 30
  else if 1 ≤ month ∧ month ≤ 12 then 31
  else 0

structure Date where
  year : Nat
  month : Nat
  day : Nat
  inCalendar : (1 ≤ year ∧ year ≤ 9999) ∧ 1 ≤ day ∧ day ≤ daysInMonth year month
deriving DecidableEq

namespace Date

def of? (year month day : Nat) : Option Date :=
  if h : (1 ≤ year ∧ year ≤ 9999) ∧ 1 ≤ day ∧ day ≤ daysInMonth year month then
    some ⟨year, month, day, h⟩
  else none

theorem of?_fields (d : Date) : of? d.year d.month d.day = some d := by
  simp only [of?, d.inCalendar, and_self, dite_true]

/-- The year of a day, and how many days of that year come before it. Four centuries have the
same number of days; the last century of four and the last year of four are a day longer. -/
def yearOfDay (day : Nat) : Nat × Nat :=
  let era := day / 146097
  let inEra := day % 146097
  let century := min 3 (inEra / 36524)
  let inCentury := inEra - century * 36524
  let four := inCentury / 1461
  let inFour := inCentury % 1461
  let year := min 3 (inFour / 365)
  (400 * era + 100 * century + 4 * four + year + 1, inFour - year * 365)

/-- The month, counted from `month` on, and the day in it, after so many days. -/
def monthOfDay (month days : Nat) : List Nat → Nat × Nat
  | [] => (month, days + 1)
  | length :: rest =>
    if days < length then (month, days + 1) else monthOfDay (month + 1) (days - length) rest

def monthLengths (year : Nat) : List Nat := (List.range' 1 12).map (daysInMonth year)

def ofDay? (day : Nat) : Option Date :=
  let (year, days) := yearOfDay day
  let (month, dayOfMonth) := monthOfDay 1 days (monthLengths year)
  of? year month dayOfMonth

def daysBeforeYear (year : Nat) : Nat :=
  let past := year - 1
  365 * past + past / 4 - past / 100 + past / 400

def toDay (d : Date) : Nat :=
  daysBeforeYear d.year + ((monthLengths d.year).take (d.month - 1)).foldl (· + ·) 0 + (d.day - 1)

/-- The year of any day, also of one before the calendar begins or after it ends. -/
def yearOf (day : Int) : Int :=
  400 * day.fdiv 146097 + ((yearOfDay (day.fmod 146097).toNat).1 : Nat)

/-- Whether a day, counted like all others, is one of the 366 before the calendar begins. -/
def inYearZero (day : Int) : Bool := -366 ≤ day && day < 0

end Date

end CounterArchive
