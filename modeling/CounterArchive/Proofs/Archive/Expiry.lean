import CounterArchive.Proofs.Archive.Isolation

/-! Which files a purge deletes, and what it tells. Of the snapshots in the directory of an application
those go that are old enough and can be deleted, and no others; everything else stays as it is, there
and elsewhere. What is told is the size of the snapshots that are left. A snapshot is only seen as long
as its path is not too long. -/
namespace CounterArchive

open CounterArchive.Path

namespace World

variable {w : World} {d : Disturbance} {application : String} {now : Binary64} {product : Rat}
  {days : Int}

/-- What has not vanished is taken away just if it is not locked and too old. -/
theorem spares_iff {name : String} {file : File} {cutoff : Int} (remains : name ∉ d.vanishing) :
    d.spares cutoff (name, file) = false ↔
      name ∉ d.locked ∧ file.modified.fdiv 1000000 < cutoff := by
  have old : Retention.isObsolete cutoff file.modified = true ↔
      file.modified.fdiv 1000000 < cutoff := decide_eq_true_iff
  rw [← old]
  simp [Disturbance.spares, Sweep.deletes, remains, and_comm]

/-- A directory whose path has no zero characters has a list of snapshots, perhaps an empty one. -/
theorem purgeAt_ok (wf : w.files.WellFormed) (d : Disturbance) (millis days : Int)
    (noZero : '\x00' ∉ (w.settings.directoryOf application).toList) :
    ∃ files events, w.purgeAt d application millis days =
        ({ w with files }.record events,
          .ok (sizeOf (files.snapshots (w.settings.directoryOf application)))) ∧
      Purged d (w.settings.directoryOf application) (Retention.cutoff millis days) w.files files := by
  rcases purgeAt_cases wf d application millis days with ⟨⟨failure, failed⟩, -⟩ | purged
  · exfalso
    have listed : ∃ names, w.snapshotNames (w.settings.directoryOf application) = .ok names := by
      unfold snapshotNames
      split
      · rename_i refused
        cases FileTree.isInFiles_of_list noZero refused
      · exact ⟨_, rfl⟩
      · exact ⟨_, rfl⟩
    obtain ⟨names, listed⟩ := listed
    unfold purgeAt at failed
    dsimp only at failed
    rw [listed] at failed
    have told := congrArg Prod.snd failed
    cases told
  · exact purged

theorem noZero_directoryOf (noZeroArchive : '\x00' ∉ w.settings.archive.toList)
    (noZero : '\x00' ∉ application.toList) :
    '\x00' ∉ (w.settings.directoryOf application).toList := by
  intro zero
  rcases mem_join zero with first | slash | second
  · exact noZeroArchive first
  · cases slash
  · exact noZero second

/-- A snapshot in a world that was just started, last changed at the time of its clock. -/
theorem exists_snapshot_at (clock : Clock) (stamps : clock.Stamps) : ∃ v place file,
    ({ World.initial with clock } : World).write .visited =
        (v, .ok (some (Snapshot.content .visited).length)) ∧
      v.settings = .inTmp ∧ v.files.WellFormed ∧
      v.files.SnapshotAt "/tmp/countervault/shop" (place.child "http.ser.gz") "http.ser.gz" file ∧
      v.files.Opens "/tmp/countervault/shop" place ∧ file.modified = clock.micros * 1000 := by
  obtain ⟨v, wrote, same, -⟩ := write_stocked (w := { World.initial with clock }) bare_initial.stocked
    plain_visited rfl stamps (.inl (by decide))
  have settings : v.settings = .inTmp := same.settings
  have wf := wellFormed_write (w := { World.initial with clock }) wellFormed_initial .visited
  rw [wrote] at wf
  have found := (file?_of_write wrote).1
  rw [← same.settings] at found
  obtain ⟨place, opens, located, named, sound⟩ :=
    shelved_of_file? (c := .visited) plain_http.noSlash found
  obtain ⟨there, again, node⟩ := FileTree.locate_of_file? found
  obtain rfl := Except.ok.inj (located.symm.trans again)
  rw [settings] at opens sound
  exact ⟨v, place, _, wrote, settings, wf,
    ⟨⟨place, opens, rfl⟩, named, sound.short, node⟩, opens, rfl⟩

/-- A snapshot that was last changed at the beginning of 1970. -/
theorem exists_snapshot : ∃ v place file,
    World.initial.write .visited = (v, .ok (some (Snapshot.content .visited).length)) ∧
      v.settings = .inTmp ∧ v.files.WellFormed ∧
      v.files.SnapshotAt "/tmp/countervault/shop" (place.child "http.ser.gz") "http.ser.gz" file ∧
      v.files.Opens "/tmp/countervault/shop" place ∧ file.modified = 0 :=
  exists_snapshot_at (.showing 0) (by decide)

/-- A moment in 1973, in seconds and in milliseconds. -/
theorem scale_instant :
    (Binary64.finite 100000000).scale 1000 = .finite 100000000000 := by decide +kernel

/-- What was changed in 1970 is too old then. -/
theorem expired_instant : (0 : Int).fdiv 1000000 <
    Binary64.truncateRat 100000000000 - (365 + 1) * 86400000 := by decide +kernel

/-- A purge with a valid age of snapshots, at any finite time. After the snapshots that vanish are gone,
just those are deleted that are not locked and were last changed before the cutoff, in whole
milliseconds. All else is as before, and what is told is the size of the snapshots that are left. -/
theorem purge_deletes_expired (wf : w.files.WellFormed)
    (noZeroArchive : '\x00' ∉ w.settings.archive.toList) (noZero : '\x00' ∉ application.toList)
    (finite : now.scale 1000 = .finite product)
    (valid : Retention.days w.settings.retention = .ok days) :
    ∃ seen v told, w.purge d application now = (v, .ok told) ∧ w.Untouched v ∧
      w.files.Lost (w.settings.directoryOf application) (fun name _ => name ∈ d.vanishing) seen ∧
      seen.Lost (w.settings.directoryOf application)
        (fun name file => name ∉ d.locked ∧
          file.modified.fdiv 1000000 < Binary64.truncateRat product - (days + 1) * 86400000)
        v.files ∧
      ∃ left : List (String × File), (left.map Prod.fst).Nodup ∧
        (∀ name file, (name, file) ∈ left ↔
          ∃ there, v.files.SnapshotAt (w.settings.directoryOf application) there name file) ∧
        told = (left.map fun entry => entry.2.content.length).sum := by
  obtain ⟨files, events, purged, taken⟩ := purgeAt_ok wf d (Binary64.truncateRat product) days
    (noZero_directoryOf noZeroArchive noZero)
  have outcome : w.purge d application now = (({ w with files } : World).record events,
      .ok (sizeOf (files.snapshots (w.settings.directoryOf application)))) := by
    have millis : Retention.millis now = .ok (Binary64.truncateRat product) := by
      rw [Retention.millis, finite]
      rfl
    simp only [purge, millis, valid, purged]
  have untouched := w.untouched_purge d application now
  rw [outcome] at untouched
  have lost := taken.lost wf
  have vanished : ∃ seen, w.files.Lost (w.settings.directoryOf application)
      (fun name _ => name ∈ d.vanishing) seen := by
    by_cases open? : ∃ place, w.files.Opens (w.settings.directoryOf application) place
    · obtain ⟨place, opens⟩ := open?
      exact ⟨_, lost_vanish wf opens d⟩
    · exact ⟨_, FileTree.lost_of_closed fun place opens => open? ⟨place, opens⟩⟩
  obtain ⟨seen, vanished⟩ := vanished
  have deleted := vanished.between lost fun name file vanishing => by
    simp [Disturbance.spares, vanishing]
  refine ⟨seen, _, _, outcome, untouched, vanished, deleted.congr ?_,
    files.snapshots (w.settings.directoryOf application), files.nodup_snapshots _,
    fun name file => (taken.wellFormed wf).mem_snapshots_iff_at, rfl⟩
  intro there name file snapshot
  exact (spares_iff (vanished.snapshotAt_iff.mp snapshot).2).symm

/-- In 1973 that snapshot is too old. -/
theorem purge_deletes_expired_visited : ∃ v y place told,
    World.initial.write .visited = (v, .ok (some (Snapshot.content .visited).length)) ∧
      v.purge {} "shop" (.finite 100000000) = (y, .ok told) ∧
      v.files.nodeAt? place ≠ none ∧ y.files.nodeAt? place = none := by
  obtain ⟨v, place, file, wrote, settings, wf, snapshot, -, modified⟩ := exists_snapshot
  have valid : Retention.days v.settings.retention = .ok 365 := by
    rw [settings]
    rfl
  have noZeroArchive : '\x00' ∉ v.settings.archive.toList := by
    rw [settings]
    decide
  have noZero : '\x00' ∉ "shop".toList := by decide
  obtain ⟨seen, y, told, purged, -, vanished, deleted, -⟩ :=
    purge_deletes_expired (d := {}) wf noZeroArchive noZero scale_instant valid
  rw [settings] at vanished deleted
  refine ⟨v, y, place.child "http.ser.gz", told, wrote, purged, by simp [snapshot.node], ?_⟩
  apply deleted.taken _ _ _ (vanished.snapshotAt_iff.mpr ⟨snapshot, List.not_mem_nil⟩)
  rw [modified]
  exact ⟨List.not_mem_nil, expired_instant⟩

end World

/-! Names of applications that end with slashes -/

def slashed (n : Nat) : String := "shop" ++ String.ofList (List.replicate n '/')

theorem toList_slashed (n : Nat) : (slashed n).toList = "shop".toList ++ List.replicate n '/' := by
  have slashes : (String.ofList (List.replicate n '/')).toList = List.replicate n '/' :=
    String.toList_ofList
  rw [slashed, String.toList_append, slashes]

theorem toList_directoryOf_slashed (n : Nat) : (Settings.inTmp.directoryOf (slashed n)).toList =
    "/tmp/countervault/shop".toList ++ List.replicate n '/' := by
  have relative : isAbsolute (slashed n) = false := by
    rw [isAbsolute, toList_slashed]
    rfl
  have joined : Settings.inTmp.directoryOf (slashed n) = "/tmp/countervault" ++ "/" ++ slashed n := by
    change join "/tmp/countervault" (slashed n) = _
    rw [join, relative]
    rfl
  rw [joined, String.toList_append, toList_slashed, ← List.append_assoc]
  rfl

theorem size_slashes (n : Nat) : Utf8.size (List.replicate n '/') = n := by
  induction n with
  | zero => rfl
  | succ n ih =>
    have one : Utf8.size ['/'] = 1 := rfl
    rw [List.replicate_succ', size_append, ih, one]

theorem size_directoryOf_slashed (n : Nat) :
    Utf8.size (Settings.inTmp.directoryOf (slashed n)).toList = 22 + n := by
  have front : Utf8.size "/tmp/countervault/shop".toList = 22 := by decide
  rw [toList_directoryOf_slashed, size_append, size_slashes, front]

theorem sound_directoryOf_slashed {n : Nat} (short : 22 + n ≤ FileTree.pathLimit) :
    Sound (Settings.inTmp.directoryOf (slashed n)) := by
  constructor
  · rw [toList_directoryOf_slashed, List.mem_append, List.mem_replicate]
    rintro (front | ⟨-, slash⟩)
    · exact absurd front (by decide)
    · cases slash
  · rw [size_directoryOf_slashed]
    exact short

/-- The slashes lead nowhere else. -/
theorem locate_directoryOf_slashed (t : FileTree) {n : Nat} (short : 22 + n ≤ FileTree.pathLimit) :
    t.locate (Settings.inTmp.directoryOf (slashed n)) = t.locate "/tmp/countervault/shop" := by
  refine t.locate_congr (sound_directoryOf_slashed short) ⟨by decide, by decide⟩ ?_
  rw [names_eq, toList_directoryOf_slashed, namesIn_append_slashes]
  rfl

theorem size_join_slashed {n : Nat} (closed : 0 < n) :
    Utf8.size (join (Settings.inTmp.directoryOf (slashed n)) "http.ser.gz").toList = 22 + n + 11 := by
  have last : (Settings.inTmp.directoryOf (slashed n)).toList.getLast? = some '/' := by
    obtain ⟨m, rfl⟩ := Nat.exists_eq_succ_of_ne_zero (Nat.ne_of_gt closed)
    rw [toList_directoryOf_slashed, List.replicate_succ', ← List.append_assoc, List.getLast?_concat]
  have name : Utf8.size "http.ser.gz".toList = 11 := by decide
  rw [join, if_neg (by decide), if_pos (.inr last), String.toList_append, size_append,
    size_directoryOf_slashed, name]

/-- Not each snapshot that is too old is deleted: its path may be too long, when that of the directory
is not. -/
theorem not_purge_deletes_expired :
    ¬ ∀ (w : World) (d : Disturbance) (application : String) (now : Binary64) (product : Rat)
      (days : Int), w.files.WellFormed → '\x00' ∉ w.settings.archive.toList →
      '\x00' ∉ application.toList → now.scale 1000 = .finite product →
      Retention.days w.settings.retention = .ok days →
      ∃ v told, w.purge d application now = (v, .ok told) ∧
        ∀ place name file, w.files.Opens (w.settings.directoryOf application) place →
          World.isSnapshotName name = true → w.files.nodeAt? (place.child name) = some (.file file) →
          name ∉ d.vanishing → name ∉ d.locked →
          file.modified.fdiv 1000000 < Binary64.truncateRat product - (days + 1) * 86400000 →
          v.files.nodeAt? (place.child name) = none := by
  intro claim
  obtain ⟨w, place, file, -, settings, wf, snapshot, opens, modified⟩ := World.exists_snapshot
  have short : 22 + 4068 ≤ FileTree.pathLimit := by decide
  have long : FileTree.pathLimit < 22 + 4068 + 11 := by decide
  have noZero : '\x00' ∉ (slashed 4068).toList := by
    rw [toList_slashed, List.mem_append, List.mem_replicate]
    rintro (front | ⟨-, slash⟩)
    · exact absurd front (by decide)
    · cases slash
  obtain ⟨v, told, purged, deletes⟩ := claim w {} (slashed 4068) (.finite 100000000) 100000000000 365 wf
    (by rw [settings]; decide) noZero World.scale_instant (by rw [settings]; rfl)
  have opensSlashed : w.files.Opens (w.settings.directoryOf (slashed 4068)) place := by
    rw [settings]
    exact ⟨(locate_directoryOf_slashed w.files short).trans opens.located, opens.directory⟩
  have gone := deletes place _ file opensSlashed snapshot.named snapshot.node List.not_mem_nil
    List.not_mem_nil (by rw [modified]; exact World.expired_instant)
  have kept : v.files.nodeAt? (place.child "http.ser.gz") =
      w.files.nodeAt? (place.child "http.ser.gz") := by
    have cases := World.purged_purge wf {} (slashed 4068) (.finite 100000000)
    rw [purged, settings] at cases
    rcases cases with same | ⟨cutoff, taken⟩
    · rw [same]
    · refine (taken.lost wf).kept _ fun name other seen _ => ?_
      obtain ⟨above, -, child⟩ := seen.inside
      obtain ⟨-, rfl⟩ := Location.child_inj.mp child
      have bound := seen.short
      rw [size_join_slashed (by decide)] at bound
      omega
  rw [kept, snapshot.node] at gone
  cases gone

end CounterArchive
