import CounterArchive.Binary64
import CounterArchive.Calendar.DateTime

/-! A clock counts microseconds. It shows a date and time as long as there is one in the
calendar. Compressed files are stamped with its whole seconds, for which they have 32 bits. -/
namespace CounterArchive

structure Clock where
  /-- Microseconds from the beginning of 1970. -/
  micros : Int
  /-- The whole seconds that stamp files. A clock that was set by hand may leave them as they are. -/
  stamp : Int
deriving DecidableEq

namespace Clock

/-- A clock that stamps files with the time that it shows. -/
def showing (micros : Int) : Clock := ⟨micros, micros.tdiv 1000000⟩

def now? (clock : Clock) : Option DateTime := DateTime.ofEpochMicros? clock.micros

/-- The seconds from the beginning of 1970, as a floating-point number. -/
def seconds (clock : Clock) : Binary64 := .ofRat (clock.micros / 1000000)

/-- Whether there is room for the stamp. -/
def Stamps (clock : Clock) : Prop := 0 ≤ clock.stamp ∧ clock.stamp < Nat.pow 2 32

instance (clock : Clock) : Decidable clock.Stamps := inferInstanceAs (Decidable (_ ∧ _))

def stamp? (clock : Clock) : Option UInt32 :=
  if clock.Stamps then some clock.stamp.toNat.toUInt32 else none

theorem stamp?_of_stamps {clock : Clock} (fits : clock.Stamps) :
    clock.stamp? = some clock.stamp.toNat.toUInt32 := if_pos fits

theorem stamp?_eq_none {clock : Clock} : clock.stamp? = none ↔ ¬ clock.Stamps := by
  simp [stamp?]

end Clock

end CounterArchive
