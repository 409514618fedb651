import CounterArchive.Connection
import CounterArchive.Proofs.Calendar.Instants
import CounterArchive.Proofs.Calendar.Stored

/-! The date of an opening is the instant of its milliseconds, although it is taken from seconds that are
rounded; and the date that is reported can be read back. -/
namespace CounterArchive.Connection.Opening

/-- The date of an opening up to the year 2242 is exact. -/
theorem exists_date {o : Opening} (began : 0 ≤ o.time) (early : o.time ≤ 8589934591999) :
    ∃ date, o.date = .ok date ∧ date.offset = some .utc ∧ date.localMicros = o.time * 1000 := by
  obtain ⟨millis, time⟩ := Int.eq_ofNat_of_zero_le began
  have bound : DateTime.millisEnd = 8589934592000 := rfl
  have short : millis < DateTime.millisEnd := by omega
  obtain ⟨seconds, date, rounded, dated, utc, micros⟩ := DateTime.ofSeconds_millis short
  refine ⟨date, ?_, utc, time ▸ micros⟩
  rw [Opening.date, time, Int.cast_natCast, rounded]
  exact dated

/-- Dates of openings are universal ones. -/
theorem whole_date {o : Opening} {date : DateTime} (dated : o.date = .ok date) : date.Whole := by
  unfold Opening.date DateTime.ofSeconds at dated
  dsimp only at dated
  repeat' split at dated
  all_goals cases dated
  rename_i found
  exact DateTime.whole_ofEpochMicros? found

/-- The date that is reported is read back. -/
theorem report_date {o : Opening} {date : DateTime} (dated : o.date = .ok date) :
    ∃ report text, o.report = .ok report ∧ report.field? "opening_date" = some (.string text) ∧
      DateTime.ofText text.toList = .ok date := by
  refine ⟨_, String.ofList (date.text DateTime.report), by rw [report, dated]; rfl, rfl, ?_⟩
  rw [String.toList_ofList]
  exact DateTime.ofText_readable DateTime.readable_report (whole_date dated)

/-- An opening up to the year 2242 has the date of its millisecond, with nothing lost. It is before the
date of another opening just if its time is, and the two have one date just if they have one time. The
reported date is read back as this one, which tells the time. -/
theorem date_exact {o : Opening} (began : 0 ≤ o.time) (early : o.time ≤ 8589934591999) :
    ∃ date, o.date = .ok date ∧ date.offset = some .utc ∧ date.localMicros = o.time * 1000 ∧
      (date.time.microsecond : Int) = o.time % 1000 * 1000 ∧
      (∀ other : Opening, 0 ≤ other.time → other.time ≤ 8589934591999 →
        ∃ otherDate, other.date = .ok otherDate ∧ (date = otherDate ↔ o.time = other.time) ∧
          (date.Before otherDate ↔ o.time < other.time)) ∧
      ∃ report text, o.report = .ok report ∧ report.field? "opening_date" = some (.string text) ∧
        DateTime.ofText text.toList = .ok date := by
  obtain ⟨date, dated, utc, micros⟩ := exists_date began early
  refine ⟨date, dated, utc, micros, ?_, fun other beganOther earlyOther => ?_, report_date dated⟩
  · rw [date.microsecond_eq, micros]
    omega
  · obtain ⟨otherDate, datedOther, -, microsOther⟩ := exists_date beganOther earlyOther
    refine ⟨otherDate, datedOther, ⟨?_, ?_⟩, ?_⟩
    · rintro rfl
      omega
    · intro same
      rw [Opening.date, same] at dated
      exact Except.ok.inj (dated.symm.trans datedOther)
    · rw [← DateTime.localMicros_lt_iff, micros, microsOther]
      omega

/-- The last millisecond for which this is so. -/
theorem date_exact_last : ∃ last, Opening.date ⟨8589934591999, 7, []⟩ = .ok last ∧
    last.localMicros = 8589934591999000 ∧ last.time.microsecond = 999000 := by
  obtain ⟨last, dated, -, micros, part, -⟩ :=
    date_exact (o := ⟨8589934591999, 7, []⟩) (by decide) (by decide)
  have count : (last.time.microsecond : Int) = 999000 := part
  exact ⟨last, dated, micros, Int.ofNat.inj count⟩

end CounterArchive.Connection.Opening
