import CounterArchive.Proofs.Archive.Expiry
import CounterArchive.Proofs.Clock

/-! To which millisecond snapshots are kept when the clock tells the present. The age of a snapshot is
counted in whole milliseconds, and so is the present, which is a floating-point number before: its
rounding may move the boundary by one. -/
namespace CounterArchive

namespace World

variable {w : World} {d : Disturbance} {application name : String} {there : Location} {file : File}
  {days : Int}

/-- A snapshot is deleted just before a boundary, in milliseconds; else it stays as it is. -/
def Deletes (v : World) (there : Location) (file : File) (boundary : Int) : Prop :=
  (v.files.nodeAt? there = none ↔ file.modified.fdiv 1000000 < boundary) ∧
    (v.files.nodeAt? there ≠ none → v.files.nodeAt? there = some (.file file))

/-- A purge at a time in milliseconds has the boundary at its cutoff. -/
theorem purgeAt_deletes (wf : w.files.WellFormed)
    (snapshot : w.files.SnapshotAt (w.settings.directoryOf application) there name file)
    (remains : name ∉ d.vanishing) (deletable : name ∉ d.locked) (millis days : Int) :
    ∃ v told, w.purgeAt d application millis days = (v, .ok told) ∧
      v.Deletes there file (millis - (days + 1) * 86400000) := by
  obtain ⟨place, opens, -⟩ := snapshot.inside
  obtain ⟨files, events, purged, taken⟩ :=
    purgeAt_ok wf d millis days (FileTree.Sound.of_locate opens.located).noZero
  have lost := taken.lost wf
  have expired : d.spares (Retention.cutoff millis days) (name, file) = false ↔
      file.modified.fdiv 1000000 < millis - (days + 1) * 86400000 :=
    (spares_iff remains).trans (and_iff_right deletable)
  refine ⟨_, _, purged, ?_⟩
  change (files.nodeAt? there = none ↔ _) ∧ (files.nodeAt? there ≠ none → _)
  rw [← expired]
  by_cases gone : d.spares (Retention.cutoff millis days) (name, file) = false
  · have absent := lost.taken there name file snapshot gone
    exact ⟨iff_of_true absent gone, fun present => absurd absent present⟩
  · have kept : files.nodeAt? there = some (.file file) := by
      rw [← snapshot.node]
      apply lost.kept
      intro other contents also
      obtain ⟨rfl, rfl⟩ := snapshot.unique also
      exact gone
    exact ⟨iff_of_false (by simp [kept]) gone, fun _ => kept⟩

/-- A finite time counts in whole milliseconds. -/
theorem purge_eq_purgeAt {now : Binary64} {product : Rat} (finite : now.scale 1000 = .finite product)
    (valid : Retention.days w.settings.retention = .ok days) :
    w.purge d application now = w.purgeAt d application (Binary64.truncateRat product) days := by
  have millis : Retention.millis now = .ok (Binary64.truncateRat product) := by
    rw [Retention.millis, finite]
    rfl
  simp only [purge, millis, valid]

/-- A purge by a clock of the calendar. Up to the year 2242, and always at whole milliseconds, a snapshot
is deleted just if it was last changed more than some days and a day before the milliseconds that have
gone by; where the clock lags, one more is asked for. Later the boundary may be missed by one
millisecond either way. -/
theorem purge_deletes_by_clock (wf : w.files.WellFormed)
    (snapshot : w.files.SnapshotAt (w.settings.directoryOf application) there name file)
    (remains : name ∉ d.vanishing) (deletable : name ∉ d.locked)
    (valid : Retention.days w.settings.retention = .ok days) (began : 0 ≤ w.clock.micros)
    (ends : w.clock.micros < Clock.calendarEnd) :
    ∃ v told boundary, w.purge d application w.clock.seconds = (v, .ok told) ∧
      v.Deletes there file (boundary - (days + 1) * 86400000) ∧
      (¬ w.clock.Lags → w.clock.micros % 1000 = 0 ∨ w.clock.micros < Clock.fineEnd →
        boundary = w.clock.micros / 1000) ∧
      (w.clock.Lags → boundary = w.clock.micros / 1000 - 1) ∧
      w.clock.micros / 1000 - 1 ≤ boundary ∧ boundary ≤ w.clock.micros / 1000 + 1 := by
  obtain ⟨product, finite, least, most, lagging, steady⟩ := Clock.truncate_seconds began ends
  obtain ⟨v, told, purged, deletes⟩ :=
    purgeAt_deletes wf snapshot remains deletable (Binary64.truncateRat product) days
  rw [← purge_eq_purgeAt finite valid] at purged
  exact ⟨v, told, _, purged, deletes, steady, lagging, least, most⟩

/-- A snapshot that was written at one time, at another one, with snapshots kept for a year. -/
theorem exists_dated (before after : Clock) (stamps : before.Stamps) : ∃ v w there file,
    ({ World.initial with clock := before } : World).write .visited =
        (v, .ok (some (Snapshot.content .visited).length)) ∧
      w = { v with clock := after } ∧ w.clock = after ∧ w.files.WellFormed ∧
      w.files.SnapshotAt (w.settings.directoryOf "shop") there "http.ser.gz" file ∧
      Retention.days w.settings.retention = .ok 365 ∧ file.modified = before.micros * 1000 := by
  obtain ⟨v, place, file, wrote, settings, wf, snapshot, -, modified⟩ :=
    exists_snapshot_at before stamps
  refine ⟨v, _, place.child "http.ser.gz", file, wrote, rfl, rfl, wf, ?_, ?_, modified⟩
  · rw [settings]
    exact snapshot
  · rw [settings]
    rfl

/-- A clock of 1973 is steady. -/
theorem steady_instant : ¬ Clock.Lags (.showing 100000000000000) := by
  rintro ⟨n, j, whole, lower, below, -⟩
  obtain rfl : n = 100000000000 := by
    have micros : (100000000000000 : Int) = 1000 * n := whole
    omega
  rcases Nat.lt_or_ge j 37 with early | late
  · have := Nat.pow_le_pow_right (n := 2) (by omega) (Nat.le_of_lt_succ early)
    omega
  · have := Nat.pow_le_pow_right (n := 2) (by omega) late
    omega

/-- By such a clock a snapshot is deleted that was last changed one millisecond before the boundary. -/
theorem purge_deletes_by_clock_visited : ∃ v w there y told,
    ({ World.initial with clock := .showing 68377599999000 } : World).write .visited =
        (v, .ok (some (Snapshot.content .visited).length)) ∧
      w = { v with clock := .showing 100000000000000 } ∧
      w.purge {} "shop" w.clock.seconds = (y, .ok told) ∧
      w.files.nodeAt? there ≠ none ∧ y.files.nodeAt? there = none := by
  obtain ⟨v, w, there, file, wrote, later, clock, wf, snapshot, valid, modified⟩ :=
    exists_dated (.showing 68377599999000) (.showing 100000000000000) (by decide)
  obtain ⟨y, told, boundary, purged, deletes, steady, -⟩ :=
    purge_deletes_by_clock (d := {}) wf snapshot List.not_mem_nil List.not_mem_nil valid
      (by rw [clock]; decide) (by rw [clock]; decide)
  rw [steady (by rw [clock]; exact steady_instant) (.inl (by rw [clock]; rfl)), clock] at deletes
  refine ⟨v, w, there, y, told, wrote, later, purged, by simp [snapshot.node], deletes.1.mpr ?_⟩
  rw [modified]
  decide

/-- A clock of 2038 lags: it shows two milliseconds past a time and counts one. -/
theorem lags_instant : Clock.Lags (.showing 2147483648002000) :=
  ⟨2147483648002, 41, rfl, by decide, by decide, by decide, by decide⟩

/-- The boundary is not just where the clock tells it, at each clock of the calendar. -/
theorem not_purge_deletes_by_clock :
    ¬ ∀ (w : World) (d : Disturbance) (application name : String) (there : Location) (file : File)
      (days : Int), w.files.WellFormed →
      w.files.SnapshotAt (w.settings.directoryOf application) there name file →
      name ∉ d.vanishing → name ∉ d.locked → Retention.days w.settings.retention = .ok days →
      0 ≤ w.clock.micros → w.clock.micros < Clock.calendarEnd →
      ∃ v told, w.purge d application w.clock.seconds = (v, .ok told) ∧
        v.Deletes there file (w.clock.micros / 1000 - (days + 1) * 86400000) := by
  intro claim
  obtain ⟨-, w, there, file, -, -, clock, wf, snapshot, valid, modified⟩ :=
    exists_dated (.showing 2115861248001000) (.showing 2147483648002000) (by decide)
  have began : 0 ≤ w.clock.micros := by rw [clock]; decide
  have ends : w.clock.micros < Clock.calendarEnd := by rw [clock]; decide
  obtain ⟨y, told, purged, deletes⟩ :=
    claim w {} "shop" _ there file 365 wf snapshot List.not_mem_nil List.not_mem_nil valid began ends
  obtain ⟨product, finite, -, -, lagging, -⟩ := Clock.truncate_seconds began ends
  obtain ⟨x, other, also, keeps⟩ := purgeAt_deletes (d := {}) wf snapshot List.not_mem_nil
    List.not_mem_nil (Binary64.truncateRat product) 365
  cases purged.symm.trans ((purge_eq_purgeAt finite valid).trans also)
  rw [Deletes, modified, clock] at deletes
  rw [Deletes, modified, lagging (by rw [clock]; exact lags_instant), clock] at keeps
  have gone := deletes.1.mpr (by decide)
  exact absurd (keeps.1.mp gone) (by decide)

end World

end CounterArchive
