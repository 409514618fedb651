import CounterArchive.Proofs.Archive.Stocked
import CounterArchive.World

/-! An archive in which nothing has been stored yet, like that of a world which has just been
started. -/
namespace CounterArchive

open Archive

structure Bare (s : Settings) (base : Location) (t : FileTree) : Prop where
  place : s.InDefaultPlace
  located : t.locate s.temporary = .ok base
  founded : t.nodeAt? base = some .directory
  archived : t.nodeAt? (root base) = none ∨ t.nodeAt? (root base) = some .directory
  nothing : ∀ application, t.nodeAt? (directory base application) = none
  below : ∀ application name, t.nodeAt? ((directory base application).child name) = none

theorem Bare.stocked {s : Settings} {base : Location} {t : FileTree} (bare : Bare s base t) :
    Stocked s base t Shelf.empty := by
  constructor
  case place => exact bare.place
  case located => exact bare.located
  case founded => exact bare.founded
  case archived => exact bare.archived
  case listed => exact fun application _ => .inl (bare.nothing application)
  case stored =>
    intro application stored _ _
    rw [snapshot, bare.below]
    exact .absent
  case housed =>
    exact fun application name _ present => absurd (bare.below application name) present

def Settings.inTmp : Settings where
  temporary := "/tmp"
  storage := "/tmp/countervault"
  retention := none
  disabled := false
  cleaner := true
  resolution := 60
  application := "countervault"

def tmp : Location := Location.root.child "tmp"

/-- A host that takes all jobs and makes nothing smaller. -/
def Host.lenient : Host where
  deflater := .stored
  jobs := ⟨fun _ _ => none, fun _ => none⟩
  nesting := 990
  directories := 985
  roomForDocument := by decide
  roomForArchive := by decide

/-- A world that was just started, at the beginning of 1970. -/
def World.initial : World := World.start .lenient (.showing 0) .inTmp

theorem World.dated_initial : ∃ now, World.initial.clock.now? = some now :=
  Option.isSome_iff_exists.mp (show (Clock.showing 0).now?.isSome by decide)

theorem files_initial : World.initial.files = ⟨⟨[(tmp, .directory)], by decide⟩⟩ := by
  obtain ⟨count, made⟩ := FileTree.makeDirectories_of_parent
    (show FileTree.empty.isPresent (Path.directoryOf "/tmp") = true by decide)
  change (FileTree.empty.ensureDirectories 985 "/tmp").1 = _
  rw [FileTree.ensureDirectories, count, if_neg (by decide), made]
  rfl

theorem bare_initial : Bare World.initial.settings tmp World.initial.files := by
  have shallow (place : Location) (deep : 1 < place.depth) :
      World.initial.files.nodeAt? place = none := by
    have notRoot : place ≠ .root := ne_of_depth (Nat.ne_of_gt (Nat.lt_trans Nat.zero_lt_one deep))
    have notTmp : (place == tmp) = false := beq_false_of_ne (ne_of_depth (Nat.ne_of_gt deep))
    rw [files_initial, FileTree.nodeAt?, if_neg notRoot]
    simp [Table.get?, List.lookup_cons, notTmp]
  constructor
  case place => constructor <;> decide
  case located => rw [files_initial]; rfl
  case founded => rw [files_initial]; rfl
  case archived => exact .inl (shallow _ (by decide))
  case nothing => exact fun application => shallow _ (by simp [directory, root, tmp])
  case below => exact fun application name => shallow _ (by simp [directory, root, tmp])

def Counter.idle : Counter := .fresh "http" "shop" ⟨⟨2024, 2, 29, by decide⟩, .midnight, some .utc⟩

def Counter.visited : Counter := Counter.idle.addHits "GET /cart" 12 false

end CounterArchive
