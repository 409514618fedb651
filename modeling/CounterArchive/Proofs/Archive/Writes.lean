import CounterArchive.Proofs.Archive.Activity
import CounterArchive.Proofs.Archive.NormalForm
import CounterArchive.Proofs.FileTree.Listing

/-! Counters that are written one after the other, each on its own, up to the first that cannot be
written; and the files that are there in the end. -/
namespace CounterArchive

namespace FileTree

variable {t u : FileTree} {path : String} {place : Location} {file : File}

/-- A file is at a path, in the form of a name in a directory. -/
def HasFile (t : FileTree) (path name : String) (file : File) : Prop :=
  ∃ directory : Location, t.locate path = .ok (directory.child name) ∧
    t.nodeAt? (directory.child name) = some (.file file)

theorem HasFile.file? {name : String} (has : t.HasFile path name file) :
    t.file? path = .ok file := by
  obtain ⟨directory, located, found⟩ := has
  exact file?_of_locate located found

theorem HasFile.grow {name : String} (has : t.HasFile path name file) (grows : t.GrowsTo u) :
    u.HasFile path name file := by
  obtain ⟨directory, located, found⟩ := has
  exact ⟨directory, grows.keepsDirectories.locate located, grows.kept found⟩

/-- A file stays while one of another name is written. -/
theorem HasFile.write {name other otherPath : String} {content : File}
    (has : t.HasFile path name file) (written : t.write otherPath content = .ok u)
    (there : ∀ place, t.locate otherPath = .ok place → ∃ directory : Location,
      place = directory.child other) (different : name ≠ other) : u.HasFile path name file := by
  obtain ⟨directory, located, found⟩ := has
  obtain ⟨place, otherLocated, free, rfl⟩ := write_ok written
  obtain ⟨parent, rfl⟩ := there place otherLocated
  refine ⟨directory, (KeepsDirectories.insert _ free).locate located, ?_⟩
  have apart : directory.child name ≠ parent.child other := fun same =>
    different (Location.child_inj.mp same).2
  rw [nodeAt?_insert t _ (ne_root_of_nodeAt? free), if_neg apart, found]

end FileTree

namespace Settings

/-- Under a name without slashes a snapshot is a file of that name in some directory. -/
theorem locate_snapshotPath_child (s : Settings) {t : FileTree} {application stored : String}
    {place : Location} (noSlash : '/' ∉ stored.toList)
    (located : t.locate (s.snapshotPath application stored) = .ok place) :
    ∃ directory : Location, place = directory.child (stored ++ snapshotSuffix) := by
  obtain ⟨directory, -, child⟩ := FileTree.opens_of_locate_snapshotPath noSlash located
  exact ⟨directory, child⟩

end Settings

namespace World

variable {w u v : World} {c : Counter} {size : Option Nat} {failure : Failure}

def snapshotDirectory (w : World) (c : Counter) : String :=
  Path.directoryOf (w.settings.snapshotPath c.application c.storedAs)

/-- A write passes a counter over: it was never used and there is no file for it yet, or the storage is
disabled. -/
def Skips (w : World) (c : Counter) : Prop :=
  w.disabled = true ∨ c.isUnused = true ∧
    w.files.isPresent (w.settings.snapshotPath c.application c.storedAs) = false

def snapshotFile (w : World) (c : Counter) : File :=
  ⟨w.snapshotBytes c (w.settings.snapshotPath c.application c.storedAs), w.clock.micros * 1000⟩

/-- The course of a write. It passes the counter over; or it fails, at the directories for the snapshot
or at the file; or the file is written, and there was room for its stamp or not. -/
inductive Course (w : World) (c : Counter) : World × Except Failure (Option Nat) → Prop where
  | skipped (skips : w.Skips c) : Course w c (w, .ok none)
  | unmade {files : FileTree} {fault : FileTree.Fault} (active : ¬ w.Skips c)
      (failed : w.files.ensureDirectories w.host.directories (w.snapshotDirectory c) =
        (files, some fault)) :
      Course w c ({ w with files }, .error (directoryFailure (w.snapshotDirectory c) fault))
  | unopened {files : FileTree} {fault : FileTree.Fault} (active : ¬ w.Skips c)
      (made : w.files.ensureDirectories w.host.directories (w.snapshotDirectory c) = (files, none))
      (failed : files.write (w.settings.snapshotPath c.application c.storedAs) (w.snapshotFile c) =
        .error fault) :
      Course w c ({ w with files },
        .error (.file (w.settings.snapshotPath c.application c.storedAs) fault))
  | unstamped {between files : FileTree} (active : ¬ w.Skips c)
      (made : w.files.ensureDirectories w.host.directories (w.snapshotDirectory c) = (between, none))
      (written : between.write (w.settings.snapshotPath c.application c.storedAs)
        (w.snapshotFile c) = .ok files) (noRoom : ¬ w.clock.Stamps) :
      Course w c ({ w with files }, .error (.unstamped w.clock.stamp))
  | put {between files : FileTree} (active : ¬ w.Skips c)
      (made : w.files.ensureDirectories w.host.directories (w.snapshotDirectory c) = (between, none))
      (written : between.write (w.settings.snapshotPath c.application c.storedAs)
        (w.snapshotFile c) = .ok files) (stamps : w.clock.Stamps) :
      Course w c ({ w with files }.record [.snapshotWritten c.name
        (w.settings.snapshotPath c.application c.storedAs) (Snapshot.content c).length],
          .ok (some (Snapshot.content c).length))

theorem course_write (w : World) (c : Counter) : Course w c (w.write c) := by
  unfold write
  dsimp only
  split
  · rename_i disabled
    exact .skipped (.inl disabled)
  · rename_i enabled
    split
    · rename_i idle
      rw [Bool.and_eq_true, Bool.not_eq_true'] at idle
      exact .skipped (.inr idle)
    · rename_i wanted
      have active : ¬ w.Skips c := by
        rintro (disabled | idle)
        · exact enabled disabled
        · exact wanted (by rw [Bool.and_eq_true, Bool.not_eq_true']; exact idle)
      split
      · rename_i failed
        exact .unmade active failed
      · rename_i made
        unfold writeSnapshot
        split
        · exact .unopened active made ‹_›
        · split
          · exact .put active made ‹_› ‹_›
          · exact .unstamped active made ‹_› ‹_›

/-- What a write makes of the files: it leaves them, or makes directories, and may put the snapshot
there then. -/
theorem files_write_cases (w : World) (c : Counter) :
    (w.write c).1.files = w.files ∨
    (w.write c).1.files =
      (w.files.ensureDirectories w.host.directories (w.snapshotDirectory c)).1 ∨
    ∃ file, (w.files.ensureDirectories w.host.directories (w.snapshotDirectory c)).1.write
      (w.settings.snapshotPath c.application c.storedAs) file = .ok (w.write c).1.files := by
  have course := w.course_write c
  generalize w.write c = outcome at course ⊢
  cases course with
  | skipped _ => exact .inl rfl
  | unmade _ failed => exact .inr (.inl (by rw [failed]))
  | unopened _ made _ => exact .inr (.inl (by rw [made]))
  | unstamped _ made written _ | put _ made written _ =>
    exact .inr (.inr ⟨_, by rw [made]; exact written⟩)

/-- The figures are of no concern to a write. -/
theorem writeSnapshot_withMetrics (w : World) (c : Counter) (path : String)
    (metrics : Registry Metrics) :
    ({ w with metrics } : World).writeSnapshot c path =
      ({ (w.writeSnapshot c path).1 with metrics }, (w.writeSnapshot c path).2) := by
  have bytes : ({ w with metrics } : World).snapshotBytes c path = w.snapshotBytes c path := rfl
  unfold writeSnapshot
  rw [bytes]
  dsimp only
  split
  · rfl
  · split <;> rfl

theorem write_withMetrics (w : World) (c : Counter) (metrics : Registry Metrics) :
    ({ w with metrics } : World).write c = ({ (w.write c).1 with metrics }, (w.write c).2) := by
  unfold write
  dsimp only
  split
  · rfl
  · split
    · rfl
    · split
      · rfl
      · exact writeSnapshot_withMetrics { w with files := _ } c _ metrics

def writeOne (w : World) (id : Registry.Id Counter) : World × Except Failure (Option Nat) :=
  match w.counters.get? id with
  | none => (w, .error .noCounter)
  | some c => w.write c

/-- Writes counters one after the other, each on its own, up to the first that cannot be written:
tells the size of each, and what failed. -/
def writeEach (w : World) :
    List (Registry.Id Counter) → World × List (Option Nat) × Option Failure
  | [] => (w, [], none)
  | id :: rest =>
    match w.writeOne id with
    | (w, .error failure) => (w, [], some failure)
    | (w, .ok size) =>
      let (w, sizes, failed) := w.writeEach rest
      (w, size :: sizes, failed)

theorem writeOne_known {id : Registry.Id Counter} (known : w.counters.get? id = some c) :
    w.writeOne id = w.write c := by
  rw [writeOne, known]

theorem untouched_writeOne (w : World) (id : Registry.Id Counter) :
    w.Untouched (w.writeOne id).1 := by
  unfold writeOne
  split
  · exact .refl w
  · exact untouched_write w _

theorem writeOne_withMetrics (w : World) (id : Registry.Id Counter) (metrics : Registry Metrics) :
    ({ w with metrics } : World).writeOne id =
      ({ (w.writeOne id).1 with metrics }, (w.writeOne id).2) := by
  unfold writeOne
  dsimp only
  split
  · rfl
  · exact write_withMetrics w _ metrics

theorem writeEach_cons_ok {id : Registry.Id Counter} (rest : List (Registry.Id Counter))
    (wrote : w.writeOne id = (u, .ok size)) :
    w.writeEach (id :: rest) =
      ((u.writeEach rest).1, size :: (u.writeEach rest).2.1, (u.writeEach rest).2.2) := by
  rw [writeEach, wrote]

theorem writeEach_cons_error {id : Registry.Id Counter} (rest : List (Registry.Id Counter))
    (failed : w.writeOne id = (u, .error failure)) :
    w.writeEach (id :: rest) = (u, [], some failure) := by
  rw [writeEach, failed]

/-- What holds on whenever one counter is written holds when some have been written, whether all went
well or not. -/
theorem writeEach_keeps {motive : World → Prop} {ids : List (Registry.Id Counter)}
    (step : ∀ id ∈ ids, ∀ u, motive u → motive (u.writeOne id).1) (begins : motive w) :
    motive (w.writeEach ids).1 := by
  induction ids generalizing w with
  | nil => exact begins
  | cons id rest ih =>
    have one := step id (List.mem_cons_self ..) w begins
    rcases wrote : w.writeOne id with ⟨u, failure | size⟩
    · rw [wrote] at one
      rwa [writeEach_cons_error rest wrote]
    · rw [wrote] at one
      rw [writeEach_cons_ok rest wrote]
      exact ih (fun other listed => step other (List.mem_cons_of_mem _ listed)) one

theorem untouched_writeEach (w : World) (ids : List (Registry.Id Counter)) :
    w.Untouched (w.writeEach ids).1 :=
  writeEach_keeps (motive := w.Untouched) (fun id _ u same => same.trans (untouched_writeOne u id))
    (.refl w)

theorem writeEach_withMetrics (w : World) (ids : List (Registry.Id Counter))
    (metrics : Registry Metrics) :
    ({ w with metrics } : World).writeEach ids =
      ({ (w.writeEach ids).1 with metrics }, (w.writeEach ids).2) := by
  induction ids generalizing w with
  | nil => rfl
  | cons id rest ih =>
    have one := writeOne_withMetrics w id metrics
    rcases wrote : w.writeOne id with ⟨u, failure | size⟩
    · rw [wrote] at one
      rw [writeEach_cons_error rest wrote, writeEach_cons_error rest one]
    · rw [wrote] at one
      rw [writeEach_cons_ok rest wrote, writeEach_cons_ok rest one, ih]

def storedNames (w : World) (ids : List (Registry.Id Counter)) : List String :=
  (ids.filterMap w.counters.get?).map Counter.storedAs

theorem mem_storedNames {ids : List (Registry.Id Counter)} {id : Registry.Id Counter}
    (listed : id ∈ ids) (known : w.counters.get? id = some c) : c.storedAs ∈ w.storedNames ids :=
  List.mem_map_of_mem (List.mem_filterMap.mpr ⟨id, listed, known⟩)

def written (ids : List (Registry.Id Counter)) (sizes : List (Option Nat)) :
    List (Registry.Id Counter) :=
  ((ids.zip sizes).filter fun entry => entry.2.isSome).map Prod.fst

def HasSnapshot (w : World) (c : Counter) : Prop :=
  ∃ file, w.files.HasFile (w.settings.snapshotPath c.application c.storedAs)
    (c.storedAs ++ Settings.snapshotSuffix) file ∧ Snapshot.Holds file.content c

/-- The snapshot of a counter stays while one is written that is stored under another name. -/
theorem HasSnapshot.write {d : Counter} (has : w.HasSnapshot c) (noSlash : '/' ∉ d.storedAs.toList)
    (different : c.storedAs ≠ d.storedAs) : (w.write d).1.HasSnapshot c := by
  obtain ⟨file, there, holds⟩ := has
  have apart : c.storedAs ++ Settings.snapshotSuffix ≠ d.storedAs ++ Settings.snapshotSuffix :=
    fun same => different (String.append_left_inj _ |>.mp same)
  have kept := there.grow
    (w.files.growsTo_ensureDirectories w.host.directories (w.snapshotDirectory d))
  refine ⟨file, ?_, holds⟩
  rw [(w.untouched_write d).settings]
  rcases w.files_write_cases d with same | same | ⟨content, put⟩
  · rw [same]
    exact there
  · rw [same]
    exact kept
  · exact kept.write put
      (fun place located => w.settings.locate_snapshotPath_child noSlash located) apart

theorem HasSnapshot.writeEach {ids : List (Registry.Id Counter)} (has : w.HasSnapshot c)
    (noSlash : ∀ stored ∈ w.storedNames ids, '/' ∉ stored.toList)
    (different : c.storedAs ∉ w.storedNames ids) : (w.writeEach ids).1.HasSnapshot c := by
  refine (writeEach_keeps (motive := fun u => u.HasSnapshot c ∧ w.Untouched u) ?_
    ⟨has, .refl w⟩).1
  intro id listed u ⟨has, same⟩
  refine ⟨?_, same.trans (untouched_writeOne u id)⟩
  cases known : u.counters.get? id with
  | none =>
    rw [writeOne, known]
    exact has
  | some d =>
    rw [writeOne_known known]
    rw [same.counters] at known
    have among := mem_storedNames listed known
    exact has.write (noSlash _ among) fun alike => different (alike ▸ among)

end World

end CounterArchive
