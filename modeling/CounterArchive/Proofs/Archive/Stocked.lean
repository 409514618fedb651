import CounterArchive.Proofs.Archive.Places
import CounterArchive.Proofs.FileTree.Changes
import CounterArchive.Proofs.Snapshot.Codec

/-! An archive in the files and what is on its shelf: one snapshot for each counter that is kept,
below the directory of its application, and nothing else. -/
namespace CounterArchive

/-- A counter as it was when it was stored, with the time of the last change of its file. -/
structure Entry where
  counter : Counter
  modified : Int

abbrev Shelf : Type := String → String → Option Entry

namespace Shelf

def empty : Shelf := fun _ _ => none

def set (shelf : Shelf) (application stored : String) (entry : Option Entry) : Shelf :=
  fun a s => if a = application ∧ s = stored then entry else shelf a s

end Shelf

namespace Archive

def root (base : Location) : Location := base.child Settings.defaultName

def directory (base : Location) (application : String) : Location := (root base).child application

def snapshot (base : Location) (application stored : String) : Location :=
  (directory base application).child (stored ++ Settings.snapshotSuffix)

end Archive

open Archive

structure Entry.InFile (entry : Entry) (file : File) : Prop where
  content : Snapshot.Holds file.content entry.counter
  modified : file.modified = entry.modified

/-- What is in the place of an entry, or of none. -/
inductive Shelved : Option Entry → Option Node → Prop
  | absent : Shelved none none
  | kept {entry : Entry} {file : File} (inFile : entry.InFile file) :
      Shelved (some entry) (some (.file file))

theorem Shelved.notDirectory {entry : Option Entry} {node : Option Node}
    (shelved : Shelved entry node) : node ≠ some .directory := by
  cases shelved <;> simp

structure Stocked (s : Settings) (base : Location) (t : FileTree) (shelf : Shelf) : Prop where
  place : s.InDefaultPlace
  located : t.locate s.temporary = .ok base
  founded : t.nodeAt? base = some .directory
  archived : t.nodeAt? (root base) = none ∨ t.nodeAt? (root base) = some .directory
  listed : ∀ application, PlainApplication application →
    t.nodeAt? (directory base application) = none ∨
      t.nodeAt? (directory base application) = some .directory ∧
        t.nodeAt? (root base) = some .directory
  stored : ∀ application stored, PlainApplication application → PlainStored stored →
    Shelved (shelf application stored) (t.nodeAt? (snapshot base application stored))
  housed : ∀ application name, PlainApplication application →
    t.nodeAt? ((directory base application).child name) ≠ none →
      t.nodeAt? (directory base application) = some .directory ∧
        ∃ stored, PlainStored stored ∧ name = stored ++ Settings.snapshotSuffix

/-! Places are told apart by their depth and their names. -/

theorem Location.child_inj {first second : Location} {name other : String} :
    first.child name = second.child other ↔ first = second ∧ name = other := by
  constructor
  · intro same
    have names := congrArg Location.names same
    simp only [Location.child, List.cons.injEq] at names
    exact ⟨Location.ext names.2, names.1⟩
  · rintro ⟨rfl, rfl⟩
    rfl

@[simp] theorem Location.depth_child (place : Location) (name : String) :
    (place.child name).depth = place.depth + 1 := rfl

theorem snapshot_inj {base : Location} {application other first second : String} :
    snapshot base application first = snapshot base other second ↔
      application = other ∧ first = second := by
  simp [snapshot, directory, Location.child_inj]

theorem ne_of_depth {first second : Location} (different : first.depth ≠ second.depth) :
    first ≠ second := by
  rintro rfl
  exact different rfl

namespace FileTree

variable {t : FileTree} {path : String} {place : Location} {name : String}

theorem locate_eq (t : FileTree) (sound : Sound path) :
    t.locate path = (Path.names path).foldlM t.enter .root := by
  have noZero : ¬ path.toList.contains '\x00' = true := by simpa using sound.noZero
  rw [locate, if_neg noZero, if_neg (Nat.not_lt.mpr sound.short)]

/-- Paths with the same names lead to the same place. -/
theorem locate_congr {other : String} (t : FileTree) (sound : Sound path) (soundOther : Sound other)
    (same : Path.names path = Path.names other) : t.locate path = t.locate other := by
  rw [t.locate_eq sound, t.locate_eq soundOther, same]

/-- A path with one name more leads one step farther. -/
theorem locate_append {parent : String} (t : FileTree) (sound : Sound path) (above : Sound parent)
    (names : Path.names path = Path.names parent ++ [name]) :
    t.locate path = (t.locate parent >>= fun place => t.enter place name) := by
  rw [t.locate_eq sound, t.locate_eq above, names, walk_append]

theorem enter_plain (plain : PlainApplication name)
    (directory : t.nodeAt? place = some .directory) :
    t.enter place name = .ok (place.child name) := by
  rw [enter, directory]
  simp only [if_neg plain.notHere, if_neg plain.notAbove, if_neg (Nat.not_lt.mpr plain.short)]

theorem child_of_enter {there : Location} {name : String} (noDot : name ≠ ".")
    (noDots : name ≠ "..") (entered : t.enter place name = .ok there) :
    there = place.child name := by
  rcases enter_cases entered with ⟨here, -⟩ | ⟨above, -⟩ | ⟨-, -, -, child⟩
  · exact absurd here noDot
  · exact absurd above noDots
  · exact child

theorem enter_absent (absent : t.nodeAt? place = none) : t.enter place name = .error .notFound := by
  rw [enter, absent]

end FileTree

namespace Stocked

variable {s : Settings} {base : Location} {t u : FileTree} {shelf : Shelf}
  {application stored : String}

theorem locate_storage (stock : Stocked s base t shelf) : t.locate s.storage = .ok (root base) := by
  have place := stock.place
  rw [t.locate_append place.sound_storage place.sound_temporary place.names_storage, stock.located]
  exact FileTree.enter_plain Settings.InDefaultPlace.plain_defaultName stock.founded

theorem locate_directoryOf (stock : Stocked s base t shelf) (plain : PlainApplication application) :
    t.locate (s.directoryOf application) = t.enter (root base) application := by
  have place := stock.place
  rw [t.locate_append (place.sound_directoryOf plain) place.sound_storage
    (place.names_directoryOf plain), stock.locate_storage]
  rfl

theorem locate_snapshotPath (stock : Stocked s base t shelf) (plain : PlainApplication application)
    (plainStored : PlainStored stored)
    (listed : t.nodeAt? (directory base application) = some .directory) :
    t.locate (s.snapshotPath application stored) = .ok (snapshot base application stored) := by
  have place := stock.place
  have archived : t.nodeAt? (root base) = some .directory := by
    rcases stock.listed application plain with absent | ⟨-, archived⟩
    · rw [listed] at absent
      cases absent
    · exact archived
  rw [t.locate_append (place.sound_snapshotPath plain plainStored) (place.sound_directoryOf plain)
    (place.names_snapshotPath plainStored), stock.locate_directoryOf plain,
    FileTree.enter_plain plain archived]
  exact FileTree.enter_plain plainStored.plain_snapshotName listed

/-- Where no directory is for an application, no snapshot of it can be found. -/
theorem locate_snapshotPath_of_absent (stock : Stocked s base t shelf)
    (plain : PlainApplication application) (plainStored : PlainStored stored)
    (absent : t.nodeAt? (directory base application) = none) :
    t.locate (s.snapshotPath application stored) = .error .notFound := by
  have place := stock.place
  rw [t.locate_append (place.sound_snapshotPath plain plainStored) (place.sound_directoryOf plain)
    (place.names_snapshotPath plainStored), stock.locate_directoryOf plain]
  rcases stock.archived with noArchive | archived
  · rw [FileTree.enter_absent noArchive]
    rfl
  · rw [FileTree.enter_plain plain archived]
    exact FileTree.enter_absent absent

theorem shelf_of_absent (stock : Stocked s base t shelf) (plain : PlainApplication application)
    (plainStored : PlainStored stored) (absent : t.nodeAt? (directory base application) = none) :
    shelf application stored = none := by
  have shelved := stock.stored application stored plain plainStored
  cases kept : shelf application stored with
  | none => rfl
  | some entry =>
    rw [kept] at shelved
    have listed := (stock.housed application _ plain
      (fun (none : t.nodeAt? (snapshot base application stored) = none) => by
        rw [none] at shelved
        cases shelved)).1
    rw [absent] at listed
    cases listed

/-- What is not on the shelf is not in the files. -/
theorem file?_absent (stock : Stocked s base t shelf) (plain : PlainApplication application)
    (plainStored : PlainStored stored) (absent : shelf application stored = none) :
    t.file? (s.snapshotPath application stored) = .error .notFound := by
  have shelved := stock.stored application stored plain plainStored
  rw [absent] at shelved
  rcases stock.listed application plain with missing | ⟨listed, -⟩
  · exact FileTree.file?_of_error (stock.locate_snapshotPath_of_absent plain plainStored missing)
  · cases node : t.nodeAt? (snapshot base application stored) with
    | none => exact FileTree.file?_of_absent (stock.locate_snapshotPath plain plainStored listed) node
    | some other =>
      rw [node] at shelved
      cases shelved

/-- What is on the shelf is in the directory of the application, which is found. -/
theorem exists_node (stock : Stocked s base t shelf) (plain : PlainApplication application)
    (plainStored : PlainStored stored) {entry : Entry}
    (kept : shelf application stored = some entry) :
    ∃ file, entry.InFile file ∧
      t.locate (s.snapshotPath application stored) = .ok (snapshot base application stored) ∧
      t.nodeAt? (snapshot base application stored) = some (.file file) := by
  have shelved := stock.stored application stored plain plainStored
  rw [kept] at shelved
  rcases stock.listed application plain with absent | ⟨listed, -⟩
  · rw [stock.shelf_of_absent plain plainStored absent] at kept
    cases kept
  · have located := stock.locate_snapshotPath plain plainStored listed
    cases node : t.nodeAt? (snapshot base application stored) with
    | none =>
      rw [node] at shelved
      cases shelved
    | some other =>
      rw [node] at shelved
      cases shelved with
      | kept inFile => exact ⟨_, inFile, located, rfl⟩

/-- What is on the shelf is in the files. -/
theorem file?_kept (stock : Stocked s base t shelf) (plain : PlainApplication application)
    (plainStored : PlainStored stored) {entry : Entry}
    (kept : shelf application stored = some entry) :
    ∃ file, entry.InFile file ∧ t.file? (s.snapshotPath application stored) = .ok file := by
  obtain ⟨file, inFile, located, node⟩ := stock.exists_node plain plainStored kept
  exact ⟨file, inFile, FileTree.file?_of_locate located node⟩

theorem isPresent_snapshotPath (stock : Stocked s base t shelf)
    (plain : PlainApplication application) (plainStored : PlainStored stored) :
    t.isPresent (s.snapshotPath application stored) = (shelf application stored).isSome := by
  cases kept : shelf application stored with
  | none => exact FileTree.isPresent_of_notFound (stock.file?_absent plain plainStored kept)
  | some entry =>
    obtain ⟨file, -, found⟩ := stock.file?_kept plain plainStored kept
    exact FileTree.isPresent_of_file? found

end Stocked

end CounterArchive
