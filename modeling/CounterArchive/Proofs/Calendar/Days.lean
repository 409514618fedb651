import CounterArchive.Calendar.Date
import Mathlib.Tactic.SplitIfs

/-! The calendar counts days without a gap. Each day from the first of the year 1 on to the last of the
year 9999 has a date, by which it is counted, and later dates count later days. -/
namespace CounterArchive

theorem isLeap_iff (year : Nat) :
    isLeap year = true ↔ year % 4 = 0 ∧ (year % 100 ≠ 0 ∨ year % 400 = 0) := by
  simp [isLeap]

namespace Date

variable {d e : Date}

/-! Years -/

def daysInYear (year : Nat) : Nat := if isLeap year then 366 else 365

theorem daysBeforeYear_succ {year : Nat} (positive : 1 ≤ year) :
    daysBeforeYear (year + 1) = daysBeforeYear year + daysInYear year := by
  obtain ⟨past, rfl⟩ := Nat.exists_eq_add_of_le' positive
  have fourth : (past + 1) / 4 = past / 4 + if (past + 1) % 4 = 0 then 1 else 0 := by
    split <;> omega
  have hundredth : (past + 1) / 100 = past / 100 + if (past + 1) % 100 = 0 then 1 else 0 := by
    split <;> omega
  have era : (past + 1) / 400 = past / 400 + if (past + 1) % 400 = 0 then 1 else 0 := by
    split <;> omega
  have less : past / 100 ≤ past / 4 := Nat.div_le_div_left (by omega) (by omega)
  simp only [daysBeforeYear, daysInYear, isLeap_iff, Nat.add_sub_cancel, fourth, hundredth, era]
  split_ifs <;> omega

theorem daysBeforeYear_mono {first last : Nat} (after : first ≤ last) :
    daysBeforeYear first ≤ daysBeforeYear last := by
  induction after with
  | refl => exact Nat.le_refl _
  | @step year _ ih =>
    refine Nat.le_trans ih ?_
    rcases Nat.eq_zero_or_pos year with rfl | positive
    · decide
    · exact daysBeforeYear_succ positive ▸ Nat.le_add_right ..

/-- A day in its era of four centuries, its century, its four years and its year. -/
theorem yearOfDay_eq (day : Nat) : ∃ era century four year rest,
    yearOfDay day = (400 * era + 100 * century + 4 * four + year + 1, rest) ∧
      146097 * era + 36524 * century + 1461 * four + 365 * year + rest = day ∧
      century ≤ 3 ∧ four ≤ 24 ∧ year ≤ 3 ∧ rest ≤ 365 ∧
      (rest = 365 → year = 3 ∧ (four = 24 → century = 3)) := by
  refine ⟨_, _, _, _, _, rfl, ?_⟩
  omega

/-- A day is one of its year. -/
theorem yearOfDay_spec {day year rest : Nat} (found : yearOfDay day = (year, rest)) :
    1 ≤ year ∧ daysBeforeYear year + rest = day ∧ rest < daysInYear year := by
  obtain ⟨era, century, four, last, days, same, count, centuries, fours, years, most, longest⟩ :=
    yearOfDay_eq day
  cases found.symm.trans same
  generalize past : 400 * era + 100 * century + 4 * four + last = n at *
  have fourth : n / 4 = 100 * era + 25 * century + four := by omega
  have hundredth : n / 100 = 4 * era + century := by omega
  have ages : n / 400 = era := by omega
  refine ⟨by omega, ?_, ?_⟩
  · simp only [daysBeforeYear, Nat.add_sub_cancel, fourth, hundredth, ages]
    omega
  · rw [daysInYear]
    split
    · omega
    · rename_i common
      have leap : last = 3 → (four = 24 → century = 3) → isLeap (n + 1) = true := by
        intro lastYear lastCentury
        rw [isLeap_iff]
        constructor
        · omega
        · by_cases lastFour : four = 24
          · exact .inr (by omega)
          · exact .inl (by omega)
      have short : rest ≠ 365 := fun long => common (leap (longest long).1 (longest long).2)
      omega

/-! Months -/

def daysBeforeMonth (year month : Nat) : Nat :=
  ((monthLengths year).take (month - 1)).foldl (· + ·) 0

theorem toDay_eq (d : Date) :
    d.toDay = daysBeforeYear d.year + daysBeforeMonth d.year d.month + (d.day - 1) := rfl

theorem daysInMonth_of_gt {year month : Nat} (late : 12 < month) : daysInMonth year month = 0 := by
  simp only [daysInMonth]
  split_ifs <;> omega

theorem daysBeforeMonth_succ (year : Nat) {month : Nat} (positive : 1 ≤ month) :
    daysBeforeMonth year (month + 1) = daysBeforeMonth year month + daysInMonth year month := by
  obtain ⟨past, rfl⟩ := Nat.exists_eq_add_of_le' positive
  have taken : (monthLengths year).take (past + 1) =
      (monthLengths year).take past ++ ((monthLengths year)[past]?).toList := List.take_add_one
  change ((monthLengths year).take (past + 1)).foldl (· + ·) 0 = _
  rw [taken, List.foldl_append]
  rcases Nat.lt_or_ge past 12 with early | late
  · have there : (monthLengths year)[past]? = some (daysInMonth year (past + 1)) := by
      simp [monthLengths, early, Nat.add_comm]
    rw [there]
    rfl
  · have nothing : (monthLengths year)[past]? = none := by simp [monthLengths, late]
    rw [nothing, daysInMonth_of_gt (by omega)]
    rfl

theorem daysBeforeMonth_mono (year : Nat) {first last : Nat} (positive : 1 ≤ first)
    (after : first ≤ last) : daysBeforeMonth year first ≤ daysBeforeMonth year last := by
  induction after with
  | refl => exact Nat.le_refl _
  | step later ih =>
    refine Nat.le_trans ih ?_
    exact daysBeforeMonth_succ year (Nat.le_trans positive later) ▸ Nat.le_add_right ..

/-- Twelve months make a year. -/
theorem daysBeforeMonth_end (year : Nat) : daysBeforeMonth year 13 = daysInYear year := by
  have months : daysBeforeMonth year 13 = ((List.range' 1 12).map (daysInMonth year)).foldl (· + ·) 0 := rfl
  cases leap : isLeap year <;> simp [months, daysInYear, daysInMonth, leap, List.range']

/-- A day within months that follow each other is one of them. -/
theorem monthOfDay_spec (year : Nat) {first days count : Nat} (positive : 1 ≤ first)
    (begins : daysBeforeMonth year first ≤ days) (ends : days < daysBeforeMonth year (first + count)) :
    ∃ month rest, monthOfDay first (days - daysBeforeMonth year first)
        ((List.range' first count).map (daysInMonth year)) = (month, rest + 1) ∧
      daysBeforeMonth year month + rest = days ∧ rest < daysInMonth year month := by
  induction count generalizing first with
  | zero => exact absurd begins (Nat.not_le_of_lt ends)
  | succ count ih =>
    have next := daysBeforeMonth_succ year positive
    rw [List.range'_succ, List.map_cons, monthOfDay]
    split
    · exact ⟨first, _, rfl, by omega, by omega⟩
    · have later := ih (show 1 ≤ first + 1 by omega) (by omega)
        (by rwa [show first + 1 + count = first + (count + 1) by omega])
      rw [next, ← Nat.sub_sub] at later
      exact later

/-! Days -/

def calendarDays : Nat := 3652059

/-- Each day of the calendar has a date, by which it is counted. -/
theorem exists_ofDay {day : Nat} (within : day < calendarDays) :
    ∃ d, ofDay? day = some d ∧ d.toDay = day := by
  obtain ⟨year, days, found⟩ : ∃ year days, yearOfDay day = (year, days) := ⟨_, _, rfl⟩
  obtain ⟨positive, count, fits⟩ := yearOfDay_spec found
  have last : year ≤ 9999 := by
    refine Nat.le_of_not_lt fun late => ?_
    have past : daysBeforeYear 10000 ≤ daysBeforeYear year := daysBeforeYear_mono (by omega)
    have ends : daysBeforeYear 10000 = calendarDays := rfl
    omega
  have begins : daysBeforeMonth year 1 = 0 := rfl
  have ends : days < daysBeforeMonth year (1 + 12) := by rwa [daysBeforeMonth_end]
  obtain ⟨month, rest, inMonth, whole, short⟩ :=
    monthOfDay_spec year (Nat.le_refl 1) (begins ▸ Nat.zero_le days) ends
  have months : (List.range' 1 12).map (daysInMonth year) = monthLengths year := rfl
  rw [begins, Nat.sub_zero, months] at inMonth
  refine ⟨⟨year, month, rest + 1, ⟨positive, last⟩, by omega, short⟩, ?_, ?_⟩
  · simp only [ofDay?, found, inMonth]
    exact dif_pos _
  · rw [toDay_eq]
    change daysBeforeYear year + daysBeforeMonth year month + rest = day
    omega

def Before (d e : Date) : Prop :=
  d.year < e.year ∨ d.year = e.year ∧ (d.month < e.month ∨ d.month = e.month ∧ d.day < e.day)

theorem Before.total (d e : Date) : d.Before e ∨ d = e ∨ e.Before d := by
  obtain ⟨year, month, day, -⟩ := d
  obtain ⟨otherYear, otherMonth, otherDay, -⟩ := e
  simp only [Before, mk.injEq]
  omega

theorem month_pos (d : Date) : 1 ≤ d.month := by
  obtain ⟨-, first, last⟩ := d.inCalendar
  refine Nat.pos_of_ne_zero fun zero => ?_
  rw [zero] at last
  exact absurd (Nat.le_trans first last) (by simp [daysInMonth])

theorem month_le (d : Date) : d.month ≤ 12 := by
  obtain ⟨-, first, last⟩ := d.inCalendar
  refine Nat.le_of_not_lt fun late => ?_
  rw [daysInMonth_of_gt late] at last
  omega

/-- A day lies before the end of its month. -/
theorem toDay_lt_month (d : Date) :
    d.toDay < daysBeforeYear d.year + daysBeforeMonth d.year (d.month + 1) := by
  obtain ⟨-, first, last⟩ := d.inCalendar
  rw [toDay_eq, daysBeforeMonth_succ d.year d.month_pos]
  omega

/-- A day lies before the end of its year. -/
theorem toDay_lt_year (d : Date) : d.toDay < daysBeforeYear (d.year + 1) := by
  have inMonth := d.toDay_lt_month
  have months : daysBeforeMonth d.year (d.month + 1) ≤ daysBeforeMonth d.year 13 :=
    daysBeforeMonth_mono d.year (Nat.succ_pos _) (Nat.succ_le_succ d.month_le)
  rw [daysBeforeMonth_end] at months
  rw [daysBeforeYear_succ d.inCalendar.1.1]
  omega

theorem toDay_lt (before : d.Before e) : d.toDay < e.toDay := by
  rcases before with year | ⟨year, month | ⟨month, day⟩⟩
  · have later : daysBeforeYear (d.year + 1) ≤ daysBeforeYear e.year := daysBeforeYear_mono year
    have ends := d.toDay_lt_year
    rw [e.toDay_eq]
    omega
  · have later : daysBeforeMonth d.year (d.month + 1) ≤ daysBeforeMonth d.year e.month :=
      daysBeforeMonth_mono d.year (Nat.succ_pos _) month
    have ends := d.toDay_lt_month
    rw [e.toDay_eq, ← year]
    omega
  · have first := d.inCalendar.2.1
    rw [d.toDay_eq, e.toDay_eq, year, month]
    omega

/-- Later dates count later days. -/
theorem toDay_lt_iff : d.toDay < e.toDay ↔ d.Before e := by
  refine ⟨fun less => ?_, toDay_lt⟩
  rcases Before.total d e with before | rfl | after
  · exact before
  · exact absurd less (Nat.lt_irrefl _)
  · exact absurd (toDay_lt after) (Nat.lt_asymm less)

theorem toDay_inj : d.toDay = e.toDay ↔ d = e := by
  refine ⟨fun same => ?_, fun same => same ▸ rfl⟩
  rcases Before.total d e with before | equal | after
  · exact absurd same (Nat.ne_of_lt (toDay_lt before))
  · exact equal
  · exact absurd same.symm (Nat.ne_of_lt (toDay_lt after))

end Date

end CounterArchive
