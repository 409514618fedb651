import CounterArchive.Calendar.Instant
import CounterArchive.Proofs.Binary64
import CounterArchive.Proofs.Calendar.Days

/-! Instants and their dates. Each microsecond of the calendar has a date and time, later microseconds have
later ones, and whole milliseconds that are given in seconds come out as they were. -/
namespace CounterArchive

namespace TimeOfDay

variable {s t : TimeOfDay}

theorem toMicros_ofMicros {n : Nat} (within : n < DateTime.microsPerDay) : (ofMicros n).toMicros = n := by
  simp only [DateTime.microsPerDay] at within
  simp only [toMicros, ofMicros]
  omega

theorem toMicros_lt (t : TimeOfDay) : t.toMicros < DateTime.microsPerDay := by
  obtain ⟨hour, minute, second, microsecond⟩ := t.inDay
  simp only [toMicros, DateTime.microsPerDay]
  omega

def Before (s t : TimeOfDay) : Prop :=
  s.hour < t.hour ∨ s.hour = t.hour ∧ (s.minute < t.minute ∨ s.minute = t.minute ∧
    (s.second < t.second ∨ s.second = t.second ∧ s.microsecond < t.microsecond))

theorem toMicros_lt_iff : s.toMicros < t.toMicros ↔ s.Before t := by
  have := s.inDay
  have := t.inDay
  simp only [toMicros, Before]
  omega

end TimeOfDay

namespace DateTime

variable {s t : DateTime}

/-! The calendar -/

/-- The microseconds of 1970 and later are those of the calendar up to its end. -/
theorem exists_ofEpochMicros {n : Int} (began : 0 ≤ n)
    (ends : n < ((Date.calendarDays - epochDay) * microsPerDay : Nat)) :
    ∃ t, ofEpochMicros? n = some t ∧ t.offset = some .utc ∧ t.localMicros = n := by
  simp only [Date.calendarDays, epochDay, microsPerDay] at ends
  have positive : ¬ n + epochDay * microsPerDay < 0 := by
    simp only [epochDay, microsPerDay]
    omega
  have within : (n + epochDay * microsPerDay).toNat / microsPerDay < Date.calendarDays := by
    simp only [epochDay, microsPerDay, Date.calendarDays]
    omega
  obtain ⟨d, found, day⟩ := Date.exists_ofDay within
  refine ⟨⟨d, .ofMicros ((n + epochDay * microsPerDay).toNat % microsPerDay), some .utc⟩, ?_, rfl, ?_⟩
  · simp only [ofEpochMicros?, positive, if_false, found, Option.map_some]
  · have rest := TimeOfDay.toMicros_ofMicros (n := (n + epochDay * microsPerDay).toNat % microsPerDay)
      (Nat.mod_lt _ (by decide))
    simp only [localMicros, day, rest]
    simp only [epochDay, microsPerDay]
    omega

/-- The microseconds of a time of day are those of the instant. -/
theorem microsecond_eq (t : DateTime) : (t.time.microsecond : Int) = t.localMicros % 1000000 := by
  have := t.time.inDay
  simp only [localMicros, TimeOfDay.toMicros, epochDay, microsPerDay]
  omega

def Before (s t : DateTime) : Prop :=
  s.date.Before t.date ∨ s.date = t.date ∧ s.time.Before t.time

/-- Later dates and times stand for later microseconds. -/
theorem localMicros_lt_iff : s.localMicros < t.localMicros ↔ s.Before t := by
  have first := s.time.toMicros_lt
  have second := t.time.toMicros_lt
  rw [Before, ← Date.toDay_lt_iff, ← Date.toDay_inj, ← TimeOfDay.toMicros_lt_iff]
  simp only [localMicros]
  simp only [microsPerDay] at *
  omega

/-! Seconds -/

/-- The years of the calendar, or not much later. -/
theorem yearOf_bounds {day : Int} (begins : 0 ≤ day) (ends : day < Date.calendarDays) :
    1 ≤ Date.yearOf day ∧ Date.yearOf day ≤ 10000 := by
  obtain ⟨era, century, four, year, rest, same, count, centuries, fours, years, -⟩ :=
    Date.yearOfDay_eq (day.fmod 146097).toNat
  have remainder := Int.fmod_lt_of_pos day (b := 146097) (by omega)
  simp only [Date.calendarDays] at ends
  rw [Date.yearOf, same, Int.fdiv_eq_ediv_of_nonneg _ (by omega)]
  omega

/-- Seconds that are near to a whole number of milliseconds, but not of seconds, are split into the
seconds and microseconds of these. -/
theorem splitSeconds_near {q : Rat} {seconds millis : Nat} (positive : 0 < millis) (part : millis < 1000)
    (near : |q - (seconds + millis / 1000)| ≤ 2 ^ (-21 : Int)) :
    splitSeconds q = ((seconds : Int), 1000 * millis) := by
  have least : (1 : Rat) ≤ millis := by exact_mod_cast positive
  have most : (millis : Rat) ≤ 999 := by exact_mod_cast Nat.le_of_lt_succ part
  have start : (0 : Rat) ≤ seconds := Nat.cast_nonneg seconds
  rw [abs_le] at near
  norm_num at near
  have whole : Binary64.truncateRat q = seconds := by
    rw [Binary64.truncateRat_eq_iff (by linarith), Int.cast_natCast]
    constructor <;> linarith
  -- The seconds are less than half a microsecond off, and scaling their part adds next to nothing.
  obtain ⟨micros, rounded, -, close⟩ := Binary64.ofRat_near (q := (q - seconds) * 1000000) (e := 19)
    (by linarith) (by norm_num; linarith) (by norm_num) (by norm_num)
  have count : Binary64.roundHalfEven micros = (1000 * millis : Nat) := by
    apply Binary64.roundHalfEven_of_close
    rw [abs_le] at close
    norm_num at close
    rw [abs_lt]
    push_cast
    constructor <;> linarith
  have below : ¬ (1000000 : Int) ≤ (1000 * millis : Nat) := by omega
  have above : ¬ ((1000 * millis : Nat) : Int) < 0 := by omega
  simp only [splitSeconds, whole, Int.cast_natCast, rounded, count, below, above, if_false,
    Int.toNat_natCast]

theorem splitSeconds_whole (seconds : Nat) : splitSeconds seconds = ((seconds : Int), 0) := by
  have whole : Binary64.truncateRat seconds = seconds := by
    rw [Binary64.truncateRat_eq_iff (Nat.cast_nonneg seconds)]
    simp
  have none : Binary64.ofRat 0 = .finite 0 := rfl
  have zero : Binary64.roundHalfEven 0 = 0 := by decide +kernel
  simp [splitSeconds, whole, none, zero]

/-- A whole number of milliseconds below this number, in the year 2242, can be told by seconds, in
floating-point arithmetic. -/
def millisEnd : Nat := 2 ^ 33 * 1000

/-- Such milliseconds come out of the seconds that they are taken to, in spite of the rounding. -/
theorem exists_seconds {millis : Nat} (early : millis < millisEnd) :
    ∃ q, Binary64.ofRat (millis / 1000) = .finite q ∧
      splitSeconds q = (((millis / 1000 : Nat) : Int), 1000 * (millis % 1000)) := by
  have split : (millis : Rat) / 1000 = (millis / 1000 : Nat) + (millis % 1000 : Nat) / 1000 := by
    have whole : (1000 * (millis / 1000 : Nat) + (millis % 1000 : Nat) : Rat) = millis := by
      exact_mod_cast Nat.div_add_mod millis 1000
    linarith
  have short : millis / 1000 < 2 ^ 33 := by
    rw [millisEnd] at early
    omega
  rw [split]
  rcases Nat.eq_zero_or_pos (millis % 1000) with whole | positive
  · rw [whole, Nat.cast_zero, zero_div, add_zero]
    exact ⟨_, Binary64.ofRat_natCast (by omega), splitSeconds_whole _⟩
  · have part : millis % 1000 < 1000 := Nat.mod_lt _ (by omega)
    generalize millis / 1000 = seconds at *
    generalize millis % 1000 = rest at *
    have most : (rest : Rat) ≤ 999 := by exact_mod_cast Nat.le_of_lt_succ part
    have last : (seconds : Rat) ≤ 8589934591 := by
      exact_mod_cast (show seconds ≤ 8589934591 by omega)
    obtain ⟨q, rounded, -, near⟩ := Binary64.ofRat_near (q := seconds + rest / 1000) (e := 32)
      (by positivity) (by norm_num; linarith) (by norm_num) (by norm_num)
    exact ⟨q, rounded, splitSeconds_near positive part near⟩

/-- Seconds of up to 33 binary digits have the date and time of their parts. -/
theorem ofSeconds_of_split {q : Rat} {seconds micros : Nat} (early : seconds < 2 ^ 33)
    (split : splitSeconds q = ((seconds : Int), micros))
    (found : ofEpochMicros? (seconds * 1000000 + micros) = some t) : ofSeconds q = .ok t := by
  have day : (seconds : Int).fdiv 86400 = (seconds / 86400 : Nat) := by
    rw [Int.fdiv_eq_ediv_of_nonneg _ (by omega)]
    rfl
  have ends : (epochDay + (seconds / 86400 : Nat) : Int) < Date.calendarDays := by
    simp only [epochDay, Date.calendarDays]
    omega
  obtain ⟨first, last⟩ := yearOf_bounds (by omega) ends
  have inBounds : ¬ secondsBound < (seconds : Int).natAbs := by
    have bound : secondsBound = 9223372036854775808 := rfl
    omega
  have fits : fitsBits 32 (Date.yearOf (epochDay + (seconds / 86400 : Nat)) - 1900) = true := by
    have bound : Nat.pow 2 (32 - 1) = 2147483648 := rfl
    simp only [fitsBits, bound, Bool.and_eq_true, decide_eq_true_iff]
    omega
  simp only [ofSeconds, split, day, inBounds, fits, found, if_false, Bool.not_true, Bool.false_eq_true]

/-- The date and time of such milliseconds in seconds is the one of their microseconds. -/
theorem ofSeconds_millis {millis : Nat} (early : millis < millisEnd) :
    ∃ q t, Binary64.ofRat (millis / 1000) = .finite q ∧ ofSeconds q = .ok t ∧
      t.offset = some .utc ∧ t.localMicros = millis * 1000 := by
  obtain ⟨q, rounded, split⟩ := exists_seconds early
  rw [millisEnd] at early
  have ends : (millis * 1000 : Int) < ((Date.calendarDays - epochDay) * microsPerDay : Nat) := by
    simp only [Date.calendarDays, epochDay, microsPerDay]
    omega
  obtain ⟨t, found, utc, micros⟩ := exists_ofEpochMicros (by omega) ends
  have count : (millis * 1000 : Int) =
      (millis / 1000 : Nat) * 1000000 + (1000 * (millis % 1000) : Nat) := by omega
  rw [count] at found
  exact ⟨q, t, rounded, ofSeconds_of_split (by omega) split found, utc, micros⟩

end DateTime

end CounterArchive
