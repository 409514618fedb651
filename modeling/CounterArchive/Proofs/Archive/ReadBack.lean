import CounterArchive.Proofs.Archive.Writes

/-! What was written is read again, at any later time and whatever else has happened to the files,
as long as that one file was left alone. -/
namespace CounterArchive.World

variable {w v : World} {c : Counter} {size : Nat}

/-- A write that tells a size has put the snapshot of the counter into its file. -/
theorem file?_of_write (written : w.write c = (v, .ok (some size))) :
    v.files.file? (w.settings.snapshotPath c.application c.storedAs) = .ok (w.snapshotFile c) ∧
      Snapshot.Holds (w.snapshotFile c).content c := by
  have course := w.course_write c
  rw [written] at course
  cases course with
  | put _ _ put stamps => exact ⟨FileTree.file?_write put, holds_snapshotBytes stamps c _⟩

end CounterArchive.World
