import CounterArchive.Proofs.Archive.Damage
import CounterArchive.Proofs.Archive.Writes
import CounterArchive.Proofs.Counter.Uses
import CounterArchive.Proofs.FileTree.Trails

/-! What a write leaves behind. It touches no file but that of the snapshot, and puts that one there
as a whole, whatever was there before. If it fails, no file is touched at all. In both cases new
directories lie on the way to the snapshot. -/
namespace CounterArchive

open CounterArchive.Path (names)

namespace FileTree

variable {t between u : FileTree} {path : String} {file : File}

/-- A file has been put at a path, and all other files are as they were. For it there may be new
directories on the way to it. -/
structure Receives (t : FileTree) (path : String) (file : File) (u : FileTree) : Prop where
  files : ∃ place, u.locate path = .ok place ∧ u.nodeAt? place = some (.file file) ∧
    ∀ other, other ≠ place → ∀ old,
      u.nodeAt? other = some (.file old) ↔ t.nodeAt? other = some (.file old)
  directories : t.KeepsDirectories u
  along : t.GrowsAlong u (names path)

/-- A file is put at a path after directories have been made on the way to it. -/
theorem receives_of_write (grows : t.GrowsTo between)
    (along : t.GrowsAlong between (names (Path.directoryOf path)))
    (written : between.write path file = .ok u) : t.Receives path file u := by
  have keeps := keepsDirectories_of_write written
  constructor
  case files =>
    obtain ⟨place, located, free, rfl⟩ := write_ok written
    have agrees := between.nodeAt?_insert (.file file) (ne_root_of_nodeAt? free)
    refine ⟨place, keeps.locate located, by rw [agrees, if_pos rfl], ?_⟩
    intro other apart old
    rw [agrees, if_neg apart]
    exact grows.sameFiles other old
  case directories => exact fun place directory => keeps place (grows.kept directory)
  case along =>
    exact along.trans (Path.names_directoryOf_prefix path) (growsAlong_write written) keeps

end FileTree

namespace World

variable {w v : World} {c : Counter} {size : Option Nat} {failure : Failure}

theorem skips_iff : w.Skips c ↔ w.disabled = true ∨ c.requests = .empty ∧ c.errors = [] ∧
    w.files.isPresent (w.settings.snapshotPath c.application c.storedAs) = false := by
  rw [Skips, Counter.isUnused_iff, and_assoc]

/-- A write that does not fail passes the counter over, and leaves all as it is, just if the storage is
disabled, or if there are no requests, no errors and nothing in the place of the snapshot. Else it tells
the size of the document of the counter; and a file with just that document, compressed, is the only one
that it touches. -/
theorem write_skips_or_replaces (written : w.write c = (v, .ok size)) :
    (size = none ↔ w.disabled = true ∨ c.requests = .empty ∧ c.errors = [] ∧
      w.files.isPresent (w.settings.snapshotPath c.application c.storedAs) = false) ∧
    (size = none → v = w) ∧
    ∀ n, size = some n → w.Untouched v ∧ n = (Utf8.encode c.text).length ∧
      ∃ file, Gzip.decompress file.content = .ok (Utf8.encode c.text) ∧
        w.files.Receives (w.settings.snapshotPath c.application c.storedAs) file v.files := by
  have untouched := w.untouched_write c
  have course := w.course_write c
  rw [written] at untouched course
  rw [← skips_iff]
  cases course with
  | skipped skips =>
    exact ⟨⟨fun _ => skips, fun _ => rfl⟩, fun _ => rfl, fun _ some => nomatch some⟩
  | @put between files active made put stamps =>
    have grows := w.files.growsTo_ensureDirectories w.host.directories (w.snapshotDirectory c)
    have along := w.files.growsAlong_ensureDirectories w.host.directories (w.snapshotDirectory c)
    rw [made] at grows along
    refine ⟨⟨(fun none => nomatch none), fun skips => absurd skips active⟩,
      (fun none => nomatch none), ?_⟩
    rintro n ⟨⟩
    exact ⟨untouched, rfl, _, (holds_snapshotBytes stamps c _).decompress_eq,
      FileTree.receives_of_write grows along put⟩

theorem write_skips_or_replaces_visited : ∃ v n file,
    World.initial.write .visited = (v, .ok (some n)) ∧
      n = (Utf8.encode Counter.visited.text).length ∧
      Gzip.decompress file.content = .ok (Utf8.encode Counter.visited.text) ∧
      World.initial.files.Receives "/tmp/countervault/shop/http.ser.gz" file v.files := by
  obtain ⟨v, written, -⟩ :=
    write_stocked bare_initial.stocked plain_visited rfl (by decide) (.inl (by decide))
  obtain ⟨-, -, replaced⟩ := write_skips_or_replaces written
  obtain ⟨-, size, file, content, receives⟩ := replaced _ rfl
  exact ⟨v, _, file, written, size, content, receives⟩

/-- Without room for the stamp, it is too late for what was in the file of the snapshot. What is left
there is damaged; all other files are as they were. -/
theorem write_unstamped {seconds : Int} (failed : w.write c = (v, .error (.unstamped seconds))) :
    ¬ w.clock.Stamps ∧ seconds = w.clock.stamp ∧
      w.files.Receives (w.settings.snapshotPath c.application c.storedAs)
        ⟨Snapshot.broken (w.settings.snapshotPath c.application c.storedAs),
          w.clock.micros * 1000⟩ v.files ∧
      v.readCounter c = .error (.damagedSnapshot
        (w.settings.snapshotPath c.application c.storedAs) (.compression .truncated)) := by
  have course := w.course_write c
  generalize w.write c = outcome at course failed
  cases course with
  | skipped | unopened | put => cases failed
  | @unmade _ fault =>
    have told : directoryFailure (w.snapshotDirectory c) fault = .unstamped seconds :=
      Except.error.inj (congrArg Prod.snd failed)
    rw [directoryFailure] at told
    split at told <;> cases told
  | @unstamped between files active made written noRoom =>
    cases failed
    have grows := w.files.growsTo_ensureDirectories w.host.directories (w.snapshotDirectory c)
    have along := w.files.growsAlong_ensureDirectories w.host.directories (w.snapshotDirectory c)
    rw [made] at grows along
    have left : w.snapshotFile c =
        ⟨Snapshot.broken (w.settings.snapshotPath c.application c.storedAs),
          w.clock.micros * 1000⟩ := by
      rw [snapshotFile, snapshotBytes, Clock.stamp?_eq_none.mpr noRoom]
    rw [left] at written
    have enabled : w.disabled = false := Bool.eq_false_iff.mpr fun disabled => active (.inl disabled)
    refine ⟨noRoom, rfl, FileTree.receives_of_write grows along written, ?_⟩
    rw [readCounter, read_of_file (w := { w with files }) enabled (FileTree.file?_write written),
      Snapshot.decode_broken]

end World

end CounterArchive
