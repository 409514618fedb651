import CounterArchive.Calendar.Reading
import CounterArchive.Proofs.Numeral

/-! Dates and times that are written are read back: to the microsecond, and with the whole minutes of
their offsets. -/
namespace CounterArchive.DateTime

open Numeral

theorem takeDigits_padded {n : Nat} (width : Nat) (rest : List Char) (positive : 0 < width)
    (fits : n < 10 ^ width) :
    takeDigits width (padded width (decimal n) ++ rest) = some (n, rest) := by
  obtain ⟨digits, written, length, small, value_eq⟩ :=
    padded_digitList width (by omega) positive fits
  have read := mapM_digits fun d listed => asciiDigit_digitChar d (small d listed)
  have count : (digits.map digitChar).length = width := by rw [List.length_map, length]
  rw [decimal_eq, written, takeDigits, List.take_left' count, List.drop_left' count, read]
  change (if digits.length = width then some (value 10 digits, rest) else none) = _
  rw [if_pos length, value_eq]

theorem takeDigits_twoDigits {n : Nat} (rest : List Char) (fits : n < 100) :
    takeDigits 2 (twoDigits n ++ rest) = some (n, rest) :=
  takeDigits_padded 2 rest (by omega) fits

theorem daysInMonth_le (year month : Nat) : daysInMonth year month ≤ 31 := by
  unfold daysInMonth
  repeat' split
  all_goals omega

theorem month_lt {year month day : Nat} (first : 1 ≤ day) (last : day ≤ daysInMonth year month) :
    month < 100 := by
  unfold daysInMonth at last
  repeat' split at last
  all_goals omega

theorem takeDate_dateText (d : Date) (rest : List Char) :
    takeDate (dateText d ++ rest) = some (some d, rest) := by
  obtain ⟨⟨-, lastYear⟩, firstDay, lastDay⟩ := d.inCalendar
  have days := daysInMonth_le d.year d.month
  have year := takeDigits_padded 4
    ('-' :: (twoDigits d.month ++ '-' :: (twoDigits d.day ++ rest))) (by decide)
    (show d.year < 10 ^ 4 by omega)
  have month := takeDigits_twoDigits ('-' :: (twoDigits d.day ++ rest)) (month_lt firstDay lastDay)
  have day := takeDigits_twoDigits rest (show d.day < 100 by omega)
  simp only [dateText, List.append_assoc, List.cons_append]
  simp only [takeDate, year, month, day, Option.bind_eq_bind, Option.bind_some]
  rw [if_pos ⟨firstDay, lastDay⟩, Date.of?_fields]

/-- What may follow a time of day: nothing, or the mark or the sign of an offset. -/
def AfterTime (rest : List Char) : Prop := ∀ c ∈ rest.head?, c = 'Z' ∨ c = '+' ∨ c = '-'

theorem AfterTime.noDigit {rest : List Char} (after : AfterTime rest) : NoDigit rest := by
  intro c head
  rcases after c head with rfl | rfl | rfl <;> decide

theorem takeFraction_of_afterTime {rest : List Char} (after : AfterTime rest) :
    takeFraction rest = some (0, rest) := by
  cases rest with
  | nil => rfl
  | cons c rest => rcases after c rfl with rfl | rfl | rfl <;> rfl

theorem microseconds_of_length {digits : List Nat} (length : digits.length = 6) :
    microseconds digits = value 10 digits := by
  rw [microseconds, length, List.take_of_length_le (Nat.le_of_eq length)]
  exact congrArg _ (List.append_nil digits)

theorem takeFraction_padded {n : Nat} {rest : List Char} (fits : n < 1000000)
    (after : AfterTime rest) :
    takeFraction ('.' :: (padded 6 (decimal n) ++ rest)) = some (n, rest) := by
  obtain ⟨digits, written, length, small, value_eq⟩ :=
    padded_digitList 6 (by omega) (by omega) (show n < 10 ^ 6 from fits)
  have span := spanDigits_digits small after.noDigit
  rw [decimal_eq, written, takeFraction, if_pos (.inl rfl), span]
  cases digits with
  | nil => cases length
  | cons d digits =>
    have micros := (microseconds_of_length length).trans value_eq
    exact congrArg (fun n => some (n, rest)) micros

theorem takeTime_timeText (t : TimeOfDay) {rest : List Char} (after : AfterTime rest) :
    takeTime (timeText t ++ rest) = some (t, rest) := by
  obtain ⟨hours, minutes, seconds, micros⟩ := t.inDay
  have part : ∃ part, part = (if t.microsecond = 0 then []
      else '.' :: padded 6 (decimal t.microsecond)) ++ rest ∧
      takeFraction part = some (t.microsecond, rest) := by
    refine ⟨_, rfl, ?_⟩
    by_cases whole : t.microsecond = 0
    · rw [if_pos whole, whole]
      exact takeFraction_of_afterTime after
    · rw [if_neg whole]
      exact takeFraction_padded micros after
  obtain ⟨part, written, fraction⟩ := part
  have hour := takeDigits_twoDigits
    (':' :: (twoDigits t.minute ++ ':' :: (twoDigits t.second ++ part)))
    (show t.hour < 100 by omega)
  have minute := takeDigits_twoDigits (':' :: (twoDigits t.second ++ part))
    (show t.minute < 100 by omega)
  have second := takeDigits_twoDigits part (show t.second < 100 by omega)
  simp only [timeText, List.append_assoc, List.cons_append, ← written]
  simp only [takeTime, hour, minute, second, fraction, Option.bind_eq_bind, Option.bind_some]
  rw [TimeOfDay.of?_fields]
  rfl

/-- What is written in a layout can be read: its separator is one, and its mark stands for universal
time. -/
structure Layout.Readable (layout : Layout) : Prop where
  separates : isSeparator layout.separator = true
  after : AfterTime layout.utcMark
  universal : readOffset layout.utcMark = some (some .utc)

theorem readable_stored : stored.Readable := by
  refine ⟨rfl, ?_, rfl⟩
  rintro _ ⟨⟩
  exact .inl rfl

theorem readable_report : report.Readable := by
  refine ⟨rfl, ?_, by decide +kernel⟩
  rintro _ ⟨⟩
  exact .inr (.inl rfl)

variable {layout : Layout}

theorem afterTime_offsetText (readable : layout.Readable) (o : Offset) :
    AfterTime (offsetText layout o) := by
  intro c head
  unfold offsetText at head
  split at head
  · exact readable.after c head
  · split at head
    · cases head
      exact .inr (.inr rfl)
    · cases head
      exact .inr (.inl rfl)

/-- An offset is read from its sign, its hours and its minutes. -/
theorem readOffset_signed {mark : Char} {sign : Int} {minutes : Nat} (universal : mark ≠ 'Z')
    (lower : mark ≠ 'z') (signed : offsetSign? mark = some sign) (small : minutes < 6000) :
    readOffset (mark :: (twoDigits (minutes / 60) ++ ':' :: twoDigits (minutes % 60))) =
      (Offset.ofMinutes? (sign * minutes)).map some := by
  have hours := takeDigits_twoDigits (':' :: twoDigits (minutes % 60))
    (show minutes / 60 < 100 by omega)
  have rest := takeDigits_twoDigits [] (show minutes % 60 < 100 by omega)
  rw [List.append_nil] at rest
  have short : minutes % 60 < 60 := Nat.mod_lt _ (by omega)
  have whole : (60 * (minutes / 60 : Nat) + (minutes % 60 : Nat) : Int) = minutes := by omega
  rw [readOffset.eq_def]
  split
  · rename_i nothing
    cases nothing
  · rename_i same
    exact absurd (List.cons.inj same).1 universal
  · rename_i same
    exact absurd (List.cons.inj same).1 lower
  · rename_i same
    obtain ⟨rfl, rfl⟩ := List.cons.inj same
    simp only [signed, hours, rest, Option.bind_eq_bind, Option.bind_some, List.head?_cons,
      List.tail_cons, if_true]
    rw [if_pos ⟨trivial, short⟩, whole]
    cases Offset.ofMinutes? (sign * minutes) <;> rfl

theorem ofMinutes?_eq_some_iff {minutes : Int} {o : Offset} :
    Offset.ofMinutes? minutes = some o ↔ 60000000 * minutes = o.micros := by
  have within := o.withinDay
  unfold Offset.ofMinutes?
  split
  · rw [Option.some.injEq, Offset.mk.injEq]
  · rename_i beyond
    refine ⟨nofun, fun same => ?_⟩
    omega

/-- The whole minutes of an offset, to which seconds are cut off. -/
def writtenMinutes (o : Offset) : Int := (if o.micros < 0 then -1 else 1) * (o.seconds / 60 : Nat)

/-- Of an offset its whole minutes are read back. -/
theorem readOffset_offsetText (readable : layout.Readable) (o : Offset) :
    readOffset (offsetText layout o) = (Offset.ofMinutes? (writtenMinutes o)).map some := by
  have within := o.withinDay
  have small : o.seconds / 60 < 6000 := by
    unfold Offset.seconds
    omega
  rw [offsetText, writtenMinutes]
  by_cases universal : o.seconds = 0
  · have utc : Offset.ofMinutes? 0 = some .utc := ofMinutes?_eq_some_iff.mpr (Int.mul_zero _)
    rw [if_pos universal, readable.universal, universal, Nat.zero_div, Int.natCast_zero, Int.mul_zero,
      utc, Option.map_some]
  · rw [if_neg universal]
    by_cases negative : o.micros < 0
    · rw [if_pos negative, if_pos negative, List.cons_append]
      exact readOffset_signed (by decide) (by decide) rfl small
    · rw [if_neg negative, if_neg negative, List.cons_append]
      exact readOffset_signed (by decide) (by decide) rfl small

/-- The minutes that are written make up the offset just if it has no others. -/
theorem ofMinutes?_writtenMinutes (o : Offset) :
    Offset.ofMinutes? (writtenMinutes o) = some o ↔ o.Whole := by
  rw [ofMinutes?_eq_some_iff, writtenMinutes, Offset.Whole, Offset.seconds]
  split <;> omega

/-- A date, the separator, a time of day, and an offset or nothing. -/
theorem text_readable (readable : layout.Readable) (t : DateTime) :
    ∃ written, t.text layout = dateText t.date ++ layout.separator :: (timeText t.time ++ written) ∧
      AfterTime written ∧ readOffset written =
        match t.offset with
        | none => some none
        | some o => (Offset.ofMinutes? (writtenMinutes o)).map some := by
  obtain ⟨date, time, offset⟩ := t
  cases offset with
  | none =>
    refine ⟨[], ?_, ?_, rfl⟩
    · rw [text, List.append_assoc, List.cons_append]
    · intro c head
      cases head
  | some o =>
    refine ⟨offsetText layout o, ?_, afterTime_offsetText readable o, readOffset_offsetText readable o⟩
    rw [text, List.append_assoc, List.cons_append]

/-- A date and time in the layout is read as the same one, with the whole minutes of its offset. -/
theorem readFull_text (readable : layout.Readable) (t : DateTime) :
    readFull (t.text layout) =
      match t.offset with
      | none => some (.moment t)
      | some o => (Offset.ofMinutes? (writtenMinutes o)).map
          fun read => .moment { t with offset := some read } := by
  obtain ⟨written, text, after, offset⟩ := text_readable readable t
  have time := takeTime_timeText t.time after
  have date := takeDate_dateText t.date (layout.separator :: (timeText t.time ++ written))
  rw [text, readFull]
  simp only [date, time, offset, readable.separates, Option.bind_eq_bind, Option.bind_some]
  obtain ⟨date, time, _ | o⟩ := t
  · rfl
  · dsimp only
    cases Offset.ofMinutes? (writtenMinutes o) <;> rfl

end CounterArchive.DateTime

namespace CounterArchive

/-- The offset of a date and time, if it has one, is one of whole minutes. -/
def DateTime.Whole (t : DateTime) : Prop := ∀ o ∈ t.offset, o.Whole

instance (t : DateTime) : Decidable t.Whole := inferInstanceAs (Decidable (∀ o ∈ t.offset, o.Whole))

namespace DateTime

variable {layout : Layout} {text : List Char} {t : DateTime}

/-! What is read has whole minutes in its offset -/

theorem whole_ofMinutes? {minutes : Int} {o : Offset} (read : Offset.ofMinutes? minutes = some o) :
    o.Whole := by
  have same := ofMinutes?_eq_some_iff.mp read
  unfold Offset.Whole
  omega

theorem whole_ofEpochMicros? {n : Int} (found : ofEpochMicros? n = some t) : t.Whole := by
  unfold ofEpochMicros? at found
  dsimp only at found
  split at found
  · cases found
  · obtain ⟨date, -, rfl⟩ := Option.map_eq_some_iff.mp found
    rintro o ⟨⟩
    decide

theorem whole_readOffset {offset : Option Offset} (read : readOffset text = some offset) :
    ∀ o ∈ offset, o.Whole := by
  rintro o rfl
  unfold readOffset at read
  split at read
  · cases read
  · cases read
    decide
  · cases read
    decide
  · simp only [Option.bind_eq_bind, Option.bind_eq_some_iff] at read
    obtain ⟨sign, -, ⟨hours, afterHours⟩, -, ⟨minutes, rest⟩, -, read⟩ := read
    split at read
    · obtain ⟨given, made, same⟩ := Option.bind_eq_some_iff.mp read
      cases same
      exact whole_ofMinutes? made
    · cases read

theorem whole_ofParts {date : Option Date} {time : TimeOfDay} {offset : Option Offset}
    (whole : ∀ o ∈ offset, o.Whole) (made : ofParts date time offset = .moment t) : t.Whole := by
  cases date with
  | none => cases made
  | some date =>
    cases made
    exact whole

theorem whole_readFull (read : readFull text = some (.moment t)) : t.Whole := by
  simp only [readFull, Option.bind_eq_bind, Option.bind_eq_some_iff] at read
  obtain ⟨⟨date, afterDate⟩, -, read⟩ := read
  split at read
  · split at read
    · cases read
    · obtain ⟨⟨time, afterTime⟩, -, read⟩ := Option.bind_eq_some_iff.mp read
      obtain ⟨offset, found, made⟩ := Option.bind_eq_some_iff.mp read
      exact whole_ofParts (whole_readOffset found) (Option.some.inj made)
  · cases read

theorem whole_readDate (read : readDate text = some (.moment t)) : t.Whole := by
  unfold readDate at read
  obtain ⟨⟨date, rest⟩, -, read⟩ := Option.bind_eq_some_iff.mp read
  split at read
  · exact whole_ofParts (by rintro o ⟨⟩) (Option.some.inj read)
  · cases read

theorem whole_ofSeconds? {seconds : Int} {micros : Nat}
    (read : ofSeconds? seconds micros = some (.moment t)) : t.Whole := by
  unfold ofSeconds? at read
  dsimp only at read
  split at read
  · cases read
  · obtain ⟨found, instant, same⟩ := Option.map_eq_some_iff.mp read
    cases same
    exact whole_ofEpochMicros? instant

theorem whole_ofWord? {n : Int} (read : ofWord? n = some (.moment t)) : t.Whole := by
  unfold ofWord? at read
  split at read
  · exact whole_ofSeconds? read
  · exact whole_ofSeconds? read

theorem whole_ofRat? {q : Rat} (read : ofRat? q = some (.moment t)) : t.Whole := by
  unfold ofRat? at read
  split at read
  · obtain ⟨micros, -, read⟩ := Option.bind_eq_some_iff.mp read
    exact whole_ofSeconds? read
  · obtain ⟨micros, -, read⟩ := Option.bind_eq_some_iff.mp read
    exact whole_ofSeconds? read

theorem whole_readNumber (read : readNumber text = some (.moment t)) : t.Whole := by
  unfold readNumber at read
  dsimp only at read
  split at read
  · split at read
    · exact whole_ofWord? read
    · cases read
  · obtain ⟨exponent, -, read⟩ := Option.bind_eq_some_iff.mp read
    split at read
    · cases read
    · split at read
      · exact whole_ofRat? read
      · cases read
  · cases read

theorem whole_of_settle {unread : Fault} {reading : Option Reading}
    (whole : ∀ found, reading = some (.moment found) → found.Whole)
    (settled : settle unread reading = .ok t) : t.Whole := by
  rcases reading with _ | found | _
  · cases settled
  · cases settled
    exact whole t rfl
  · cases settled

theorem whole_ofBinary64 {x : Binary64} (read : ofBinary64 x = .ok t) : t.Whole := by
  unfold ofBinary64 at read
  split at read
  · exact whole_of_settle (fun _ => whole_ofRat?) read
  · cases read

theorem whole_ofInt {n : Int} (read : ofInt n = .ok t) : t.Whole := by
  unfold ofInt at read
  split at read
  · exact whole_of_settle (fun _ => whole_ofWord?) read
  · split at read
    · exact whole_of_settle (fun _ => whole_ofRat?) read
    · cases read

theorem whole_ofText (read : ofText text = .ok t) : t.Whole := by
  refine whole_of_settle (fun found read => ?_) read
  rcases Option.or_eq_some_iff.mp read with full | ⟨-, other⟩
  · exact whole_readFull full
  · rcases Option.or_eq_some_iff.mp other with number | ⟨-, date⟩
    · exact whole_readNumber number
    · exact whole_readDate date

/-- A date and time is read as the same one, with the whole minutes of its offset. -/
theorem ofText_minutes (readable : layout.Readable) {o read : Offset} (offset : t.offset = some o)
    (minutes : Offset.ofMinutes? (writtenMinutes o) = some read) :
    ofText (t.text layout) = .ok { t with offset := some read } := by
  have full := readFull_text readable t
  simp only [offset, minutes, Option.map_some] at full
  rw [ofText, full]
  rfl

/-- A date and time is read back from a text in a layout that can be read, unless there are seconds in
its offset. -/
theorem ofText_readable (readable : layout.Readable) (whole : t.Whole) :
    ofText (t.text layout) = .ok t := by
  obtain ⟨date, time, _ | o⟩ := t
  · rw [ofText, readFull_text readable]
    rfl
  · exact ofText_minutes readable rfl ((ofMinutes?_writtenMinutes o).mpr (whole o rfl))

/-- A stored date and time is read back just if there are no seconds in its offset. -/
theorem ofText_stored_iff (t : DateTime) : ofText (t.text stored) = .ok t ↔ t.Whole :=
  ⟨whole_ofText, ofText_readable readable_stored⟩

end DateTime

end CounterArchive
