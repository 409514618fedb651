import CounterArchive.Proofs.FileTree.Listing

/-! The places of the snapshots in a directory, and what it means that some snapshots are lost from
there: nothing is found at their places any more, and all else is as it was. -/
namespace CounterArchive

open CounterArchive.Path

namespace FileTree

variable {t u v : FileTree} {path name : String} {place there : Location} {file : File}
  {gone more : String → File → Prop}

/-- A file is at a place right in the directory at a path. It has the name of a snapshot, and a path of
its own that is not too long. -/
structure SnapshotAt (t : FileTree) (path : String) (there : Location) (name : String)
    (file : File) : Prop where
  inside : ∃ place, t.Opens path place ∧ there = place.child name
  named : World.isSnapshotName name = true
  short : Utf8.size (join path name).toList ≤ pathLimit
  node : t.nodeAt? there = some (.file file)

/-- There is one snapshot at a place. -/
theorem SnapshotAt.unique {other : String} {contents : File}
    (snapshot : t.SnapshotAt path there name file) (also : t.SnapshotAt path there other contents) :
    other = name ∧ contents = file := by
  obtain ⟨place, -, child⟩ := snapshot.inside
  obtain ⟨above, -, same⟩ := also.inside
  have node := snapshot.node.symm.trans also.node
  cases node
  exact ⟨(Location.child_inj.mp (child.symm.trans same)).2.symm, rfl⟩

/-- The snapshots in a directory are those at the places in it. -/
theorem WellFormed.mem_snapshots_iff_at (wf : t.WellFormed) :
    (name, file) ∈ t.snapshots path ↔ ∃ there, t.SnapshotAt path there name file := by
  constructor
  · intro listed
    by_cases open? : ∃ place, t.Opens path place
    · obtain ⟨place, opens⟩ := open?
      obtain ⟨named, sound, node⟩ := (wf.mem_snapshots_iff opens).mp listed
      exact ⟨place.child name, ⟨place, opens, rfl⟩, named, sound.short, node⟩
    · rw [snapshots_of_not_opens fun place opens => open? ⟨place, opens⟩] at listed
      cases listed
  · rintro ⟨there, ⟨place, opens, rfl⟩, named, short, node⟩
    have plain := wf.named place name (by simp [node])
    have noZero : '\x00' ∉ (join path name).toList := by
      intro zero
      rcases mem_join zero with first | slash | second
      · exact (Sound.of_locate opens.located).noZero first
      · cases slash
      · exact plain.noZero second
    exact (wf.mem_snapshots_iff opens).mpr ⟨named, ⟨noZero, short⟩, node⟩

/-- Of the snapshots in the directory at a path some are gone, and all else is as it was. -/
structure Lost (t : FileTree) (path : String) (gone : String → File → Prop) (u : FileTree) : Prop where
  taken : ∀ there name file, t.SnapshotAt path there name file → gone name file →
    u.nodeAt? there = none
  kept : ∀ there, (∀ name file, t.SnapshotAt path there name file → ¬ gone name file) →
    u.nodeAt? there = t.nodeAt? there

namespace Lost

/-- What holds at a place: a snapshot is gone from there, or nothing has changed. -/
theorem cases (lost : t.Lost path gone u) (there : Location) :
    (∃ name file, t.SnapshotAt path there name file ∧ gone name file ∧ u.nodeAt? there = none) ∨
      u.nodeAt? there = t.nodeAt? there := by
  by_cases taken : ∃ name file, t.SnapshotAt path there name file ∧ gone name file
  · obtain ⟨name, file, snapshot, yes⟩ := taken
    exact .inl ⟨name, file, snapshot, yes, lost.taken there name file snapshot yes⟩
  · exact .inr (lost.kept there fun name file snapshot yes => taken ⟨name, file, snapshot, yes⟩)

theorem directory_iff (lost : t.Lost path gone u) (there : Location) :
    u.nodeAt? there = some .directory ↔ t.nodeAt? there = some .directory := by
  rcases lost.cases there with ⟨name, file, snapshot, -, none⟩ | same
  · simp [none, snapshot.node]
  · rw [same]

theorem keepsDirectories (lost : t.Lost path gone u) : t.KeepsDirectories u :=
  fun there => (lost.directory_iff there).mpr

theorem opens_iff (lost : t.Lost path gone u) {other : String} :
    u.Opens other place ↔ t.Opens other place := by
  have keeps := lost.keepsDirectories
  have back : u.KeepsDirectories t := fun there => (lost.directory_iff there).mp
  constructor
  · exact fun opens => ⟨back.locate opens.located, back _ opens.directory⟩
  · exact fun opens => ⟨keeps.locate opens.located, keeps _ opens.directory⟩

/-- The snapshots that are still there. -/
theorem snapshotAt_iff (lost : t.Lost path gone u) :
    u.SnapshotAt path there name file ↔ t.SnapshotAt path there name file ∧ ¬ gone name file := by
  constructor
  · rintro ⟨⟨place, opens, rfl⟩, named, short, node⟩
    have before : t.nodeAt? (place.child name) = some (.file file) := by
      rcases lost.cases (place.child name) with ⟨-, -, -, -, none⟩ | same
      · rw [none] at node
        cases node
      · rw [← same, node]
    have snapshot : t.SnapshotAt path (place.child name) name file :=
      ⟨⟨place, lost.opens_iff.mp opens, rfl⟩, named, short, before⟩
    refine ⟨snapshot, fun yes => ?_⟩
    rw [lost.taken _ _ _ snapshot yes] at node
    cases node
  · rintro ⟨snapshot, no⟩
    obtain ⟨⟨place, opens, rfl⟩, named, short, node⟩ := snapshot
    refine ⟨⟨place, lost.opens_iff.mpr opens, rfl⟩, named, short, ?_⟩
    rcases lost.cases (place.child name) with ⟨other, contents, also, yes, -⟩ | same
    · obtain ⟨rfl, rfl⟩ :=
        SnapshotAt.unique ⟨⟨place, opens, rfl⟩, named, short, node⟩ also
      exact absurd yes no
    · rw [same, node]

theorem congr (lost : t.Lost path gone u)
    (same : ∀ there name file, t.SnapshotAt path there name file → (more name file ↔ gone name file)) :
    t.Lost path more u where
  taken there name file snapshot yes :=
    lost.taken there name file snapshot ((same there name file snapshot).mp yes)
  kept there none := lost.kept there fun name file snapshot yes =>
    none name file snapshot ((same there name file snapshot).mpr yes)

/-- What is lost in the second of two steps. -/
theorem between (first : t.Lost path gone u) (whole : t.Lost path more v)
    (sub : ∀ name file, gone name file → more name file) : u.Lost path more v := by
  constructor
  case taken =>
    intro there name file snapshot yes
    exact whole.taken there name file (first.snapshotAt_iff.mp snapshot).1 yes
  case kept =>
    intro there none
    rcases first.cases there with ⟨name, file, snapshot, yes, absent⟩ | same
    · rw [absent, whole.taken there name file snapshot (sub name file yes)]
    · rw [same]
      apply whole.kept
      intro name file snapshot yes
      refine none name file (first.snapshotAt_iff.mpr ⟨snapshot, fun before => ?_⟩) yes
      have absent := first.taken there name file snapshot before
      rw [same, snapshot.node] at absent
      cases absent

/-- What is lost in two steps, one after the other. -/
theorem trans (first : t.Lost path gone u) (second : u.Lost path more v) :
    t.Lost path (fun name file => gone name file ∨ more name file) v := by
  constructor
  case taken =>
    intro there name file snapshot yes
    by_cases earlier : gone name file
    · have absent := first.taken there name file snapshot earlier
      rcases second.cases there with ⟨-, -, -, -, none⟩ | same
      · exact none
      · rw [same, absent]
    · exact second.taken there name file (first.snapshotAt_iff.mpr ⟨snapshot, earlier⟩)
        (yes.resolve_left earlier)
  case kept =>
    intro there none
    have before := first.kept there fun name file snapshot yes => none name file snapshot (.inl yes)
    rw [← before]
    apply second.kept
    intro name file snapshot yes
    exact none name file (first.snapshotAt_iff.mp snapshot).1 (.inr yes)

/-- It is told by what is lost what is there afterwards. -/
theorem agree (first : t.Lost path gone u) (second : t.Lost path gone v) (there : Location) :
    v.nodeAt? there = u.nodeAt? there := by
  by_cases taken : ∃ name file, t.SnapshotAt path there name file ∧ gone name file
  · obtain ⟨name, file, snapshot, yes⟩ := taken
    rw [first.taken there name file snapshot yes, second.taken there name file snapshot yes]
  · have none : ∀ name file, t.SnapshotAt path there name file → ¬ gone name file :=
      fun name file snapshot yes => taken ⟨name, file, snapshot, yes⟩
    rw [first.kept there none, second.kept there none]

section Apart

variable {other : String} (apart : ∀ place, t.Opens path place → ¬ t.Opens other place)
include apart

/-- The snapshots in other directories are all still there. -/
theorem snapshotAt_other_iff (lost : t.Lost path gone u) :
    u.SnapshotAt other there name file ↔ t.SnapshotAt other there name file := by
  have same {place : Location} (opens : t.Opens other place) :
      u.nodeAt? (place.child name) = t.nodeAt? (place.child name) := by
    apply lost.kept
    intro _ _ snapshot _
    obtain ⟨above, also, child⟩ := snapshot.inside
    obtain ⟨rfl, -⟩ := Location.child_inj.mp child
    exact apart _ also opens
  constructor
  · rintro ⟨⟨place, opens, rfl⟩, named, short, node⟩
    have before := lost.opens_iff.mp opens
    exact ⟨⟨place, before, rfl⟩, named, short, (same before).symm.trans node⟩
  · rintro ⟨⟨place, opens, rfl⟩, named, short, node⟩
    exact ⟨⟨place, lost.opens_iff.mpr opens, rfl⟩, named, short, (same opens).trans node⟩

/-- What is lost from one directory and then from another one. -/
theorem both (first : t.Lost path gone u) (second : u.Lost other more v) :
    (∀ there name file, t.SnapshotAt path there name file ∧ gone name file ∨
      t.SnapshotAt other there name file ∧ more name file → v.nodeAt? there = none) ∧
    (∀ there, (∀ name file, ¬ (t.SnapshotAt path there name file ∧ gone name file ∨
      t.SnapshotAt other there name file ∧ more name file)) → v.nodeAt? there = t.nodeAt? there) := by
  constructor
  · rintro there name file (⟨snapshot, yes⟩ | ⟨snapshot, yes⟩)
    · have absent := first.taken there name file snapshot yes
      rcases second.cases there with ⟨-, -, -, -, none⟩ | same
      · exact none
      · rw [same, absent]
    · exact second.taken there name file ((first.snapshotAt_other_iff apart).mpr snapshot) yes
  · intro there none
    have before := first.kept there fun name file snapshot yes => none name file (.inl ⟨snapshot, yes⟩)
    rw [← before]
    apply second.kept
    intro name file snapshot yes
    exact none name file (.inr ⟨(first.snapshotAt_other_iff apart).mp snapshot, yes⟩)

/-- It makes no difference from which of two directories something is lost first. -/
theorem comm {x y : FileTree} (first : t.Lost path gone u) (second : u.Lost other more v)
    (otherFirst : t.Lost other more x) (otherSecond : x.Lost path gone y) (there : Location) :
    y.nodeAt? there = v.nodeAt? there := by
  obtain ⟨taken, kept⟩ := first.both apart second
  obtain ⟨otherTaken, otherKept⟩ := otherFirst.both (fun place also opens => apart place opens also)
    otherSecond
  by_cases lost : ∃ name file, t.SnapshotAt path there name file ∧ gone name file ∨
      t.SnapshotAt other there name file ∧ more name file
  · obtain ⟨name, file, yes⟩ := lost
    rw [taken there name file yes, otherTaken there name file yes.symm]
  · have none := fun name file yes => lost ⟨name, file, yes⟩
    rw [kept there none, otherKept there fun name file yes => none name file yes.symm]

end Apart

end Lost

/-- Where nothing is gone, nothing is lost. -/
theorem lost_refl (t : FileTree) (path : String) : t.Lost path (fun _ _ => False) t where
  taken _ _ _ _ no := no.elim
  kept _ _ := rfl

/-- Where there is no directory, nothing can be lost. -/
theorem lost_of_closed (closed : ∀ place, ¬ t.Opens path place) : t.Lost path gone t where
  taken _ _ _ snapshot := by
    obtain ⟨place, opens, -⟩ := snapshot.inside
    exact absurd opens (closed place)
  kept _ _ := rfl

end FileTree

end CounterArchive
