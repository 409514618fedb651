import CounterArchive.Proofs.Archive.Stocked

/-! Changes of an archive: directories are made, and snapshots are put in, changed and taken out.
Each change of the files at one place is one of the shelf. -/
namespace CounterArchive

open Archive CounterArchive.Path

theorem Location.child_ne_root (place : Location) (name : String) : place.child name ≠ .root :=
  ne_of_depth (Nat.succ_ne_zero place.depth)

theorem root_ne (base : Location) : root base ≠ .root := base.child_ne_root _

theorem directory_ne (base : Location) (application : String) :
    directory base application ≠ .root :=
  (root base).child_ne_root application

theorem snapshot_ne (base : Location) (application stored : String) :
    snapshot base application stored ≠ .root := (directory base application).child_ne_root _

theorem root_ne_directory (base : Location) (application : String) :
    directory base application ≠ root base := ne_of_depth (Nat.succ_ne_self _)

theorem child_ne_of_root (base : Location) (application name : String) :
    (directory base application).child name ≠ root base := by
  apply ne_of_depth
  simp only [directory, Location.depth_child]
  omega

theorem child_ne_of_directory (base : Location) (application other name : String) :
    (directory base application).child name ≠ directory base other := by
  apply ne_of_depth
  simp [directory]

namespace Stocked

variable {s : Settings} {base : Location} {t u : FileTree} {shelf : Shelf}
  {application stored : String}

theorem keeps {place : Location} {node : Option Node}
    (other : t.nodeAt? place ≠ some .directory)
    (agrees : ∀ there, u.nodeAt? there = if there = place then node else t.nodeAt? there) :
    t.KeepsDirectories u := by
  intro there found
  have different : there ≠ place := by
    rintro rfl
    exact other found
  rw [agrees, if_neg different]
  exact found

theorem makeRoot (stock : Stocked s base t shelf) (absent : t.nodeAt? (root base) = none) :
    Stocked s base ⟨t.nodes.insert (root base) .directory⟩ shelf := by
  have agrees := t.nodeAt?_insert .directory (root_ne base)
  have kept := keeps (by rw [absent]; simp) agrees
  constructor
  case place => exact stock.place
  case located => exact kept.locate stock.located
  case founded => exact kept _ stock.founded
  case archived =>
    right
    rw [agrees]
    exact if_pos rfl
  case listed =>
    intro application plain
    rw [agrees, if_neg (root_ne_directory base application)]
    exact (stock.listed application plain).imp_right (And.imp_right (kept _))
  case stored =>
    intro application stored plain plainStored
    rw [agrees, snapshot, if_neg (child_ne_of_root base application _)]
    exact stock.stored application stored plain plainStored
  case housed =>
    intro application name plain present
    rw [agrees, if_neg (child_ne_of_root base application _)] at present
    rw [agrees, if_neg (root_ne_directory base application)]
    exact stock.housed application name plain present

theorem makeApplication (stock : Stocked s base t shelf)
    (archived : t.nodeAt? (root base) = some .directory)
    (absent : t.nodeAt? (directory base application) = none) :
    Stocked s base ⟨t.nodes.insert (directory base application) .directory⟩ shelf := by
  have agrees := t.nodeAt?_insert .directory (directory_ne base application)
  have kept := keeps (by rw [absent]; simp) agrees
  constructor
  case place => exact stock.place
  case located => exact kept.locate stock.located
  case founded => exact kept _ stock.founded
  case archived => exact .inr (kept _ archived)
  case listed =>
    intro other plain
    rw [agrees]
    by_cases same : directory base other = directory base application
    · exact .inr ⟨if_pos same, kept _ archived⟩
    · rw [if_neg same]
      exact (stock.listed other plain).imp_right (And.imp_right (kept _))
  case stored =>
    intro other stored plain plainStored
    rw [agrees, snapshot, if_neg (child_ne_of_directory base other application _)]
    exact stock.stored other stored plain plainStored
  case housed =>
    intro other name plain present
    rw [agrees, if_neg (child_ne_of_directory base other application _)] at present
    obtain ⟨listed, named⟩ := stock.housed other name plain present
    exact ⟨kept _ listed, named⟩

/-- The snapshot of one entry is put in, changed or taken out. -/
theorem setEntry (stock : Stocked s base t shelf) (plain : PlainApplication application)
    (plainStored : PlainStored stored) (entry : Option Entry)
    (listed : entry.isSome → t.nodeAt? (directory base application) = some .directory)
    {node : Option Node} (shelved : Shelved entry node)
    (agrees : ∀ there, u.nodeAt? there =
      if there = snapshot base application stored then node else t.nodeAt? there) :
    Stocked s base u (shelf.set application stored entry) := by
  have kept := keeps (stock.stored application stored plain plainStored).notDirectory agrees
  constructor
  case place => exact stock.place
  case located => exact kept.locate stock.located
  case founded => exact kept _ stock.founded
  case archived =>
    have apart := (child_ne_of_root base application (stored ++ Settings.snapshotSuffix)).symm
    rw [agrees, snapshot, if_neg apart]
    exact stock.archived
  case listed =>
    intro there plainThere
    have apart := (child_ne_of_directory base application there
      (stored ++ Settings.snapshotSuffix)).symm
    rw [agrees, snapshot, if_neg apart]
    exact (stock.listed there plainThere).imp_right (And.imp_right (kept _))
  case stored =>
    intro there name plainThere plainName
    rw [agrees, Shelf.set]
    by_cases same : there = application ∧ name = stored
    · obtain ⟨rfl, rfl⟩ := same
      rw [if_pos rfl, if_pos ⟨rfl, rfl⟩]
      exact shelved
    · rw [if_neg (mt snapshot_inj.mp same), if_neg same]
      exact stock.stored there name plainThere plainName
  case housed =>
    intro there name plainThere present
    by_cases same : (directory base there).child name = snapshot base application stored
    · obtain ⟨place, rfl⟩ := Location.child_inj.mp same
      rw [place]
      rw [agrees, if_pos same] at present
      refine ⟨kept _ (listed ?_), stored, plainStored, rfl⟩
      cases shelved with
      | absent => exact absurd rfl present
      | kept => rfl
    · rw [agrees, if_neg same] at present
      obtain ⟨listed, named⟩ := stock.housed there name plainThere present
      exact ⟨kept _ listed, named⟩

theorem isPresent_above (stock : Stocked s base t shelf) :
    t.isPresent (Path.directoryOf s.storage) = true := by
  have place := stock.place
  have located : t.locate (Path.directoryOf s.storage) = .ok base := by
    rw [t.locate_eq place.sound_directoryOf_storage, place.names_directoryOf_storage,
      ← t.locate_eq place.sound_temporary]
    exact stock.located
  exact FileTree.isPresent_of_directory located stock.founded

/-- The directory of the archive can be made. -/
theorem ensureRoot (stock : Stocked s base t shelf) :
    t.countMissing s.storage = 1 ∧ ∃ u, t.makeDirectories s.storage = (u, none) ∧
      Stocked s base u shelf ∧ u.nodeAt? (root base) = some .directory := by
  obtain ⟨count, made⟩ := FileTree.makeDirectories_of_parent stock.isPresent_above
  have located := stock.locate_storage
  refine ⟨count, ?_⟩
  rw [made]
  rcases stock.archived with absent | archived
  · refine ⟨_, FileTree.ensureDirectory_of_absent located absent, stock.makeRoot absent, ?_⟩
    rw [FileTree.nodeAt?_insert t _ (root_ne base), if_pos rfl]
  · exact ⟨t, FileTree.ensureDirectory_of_directory located archived, stock, archived⟩

theorem ensureApplication (stock : Stocked s base t shelf) (plain : PlainApplication application)
    (archived : t.nodeAt? (root base) = some .directory) :
    ∃ u, t.ensureDirectory (s.directoryOf application) = (u, none) ∧ Stocked s base u shelf ∧
      u.nodeAt? (directory base application) = some .directory := by
  have located : t.locate (s.directoryOf application) = .ok (directory base application) := by
    rw [stock.locate_directoryOf plain]
    exact FileTree.enter_plain plain archived
  rcases stock.listed application plain with absent | ⟨listed, -⟩
  · refine ⟨_, FileTree.ensureDirectory_of_absent located absent,
      stock.makeApplication archived absent, ?_⟩
    rw [FileTree.nodeAt?_insert t _ (directory_ne base application), if_pos rfl]
  · exact ⟨t, FileTree.ensureDirectory_of_directory located listed, stock, listed⟩

/-- The directory of an application can be made, together with that of the archive. -/
theorem ensureDirectories (stock : Stocked s base t shelf) (plain : PlainApplication application)
    {most : Nat} (room : 2 ≤ most) :
    ∃ u, t.ensureDirectories most (s.directoryOf application) = (u, none) ∧ Stocked s base u shelf ∧
      u.nodeAt? (directory base application) = some .directory := by
  have place := stock.place
  have above := place.directoryOf_directoryOf plain
  have present := ne_empty_of_isAbsolute place.absolute_storage
  rcases stock.archived with absent | archived
  · obtain ⟨one, u, made, stockRoot, archived⟩ := stock.ensureRoot
    obtain ⟨v, ensured, stockBoth, listed⟩ := stockRoot.ensureApplication plain archived
    have shorter := length_directoryOf_join plain.noSlash plain.present present
    have named : lastName (s.directoryOf application) ≠ "." := by
      rw [place.directoryOf_eq, lastName_join plain.noSlash present]
      exact plain.notHere
    rw [← place.directoryOf_eq] at shorter
    obtain ⟨count, all⟩ := FileTree.makeDirectories_of_absent (by rw [above]; exact present) shorter
      (by rw [above]; exact FileTree.isPresent_of_absent stock.locate_storage absent) named
      (by rw [above]; exact made)
    rw [above, one] at count
    refine ⟨v, ?_, stockBoth, listed⟩
    rw [FileTree.ensureDirectories, count, if_neg (by omega), all, ensured]
  · have there : t.isPresent (Path.directoryOf (s.directoryOf application)) = true := by
      rw [above]
      exact FileTree.isPresent_of_directory stock.locate_storage archived
    obtain ⟨count, all⟩ := FileTree.makeDirectories_of_parent there
    rw [FileTree.ensureDirectories, count, if_neg (by omega), all]
    exact stock.ensureApplication plain archived

end Stocked

end CounterArchive
