import CounterArchive.Proofs.Archive.Stocked
import CounterArchive.Proofs.FileTree.Growth

/-! Trees as file systems have them: whatever is there is in a directory, under a name that a path can
have. All changes leave them so. -/
namespace CounterArchive

/-- Each place but the root is a name in another one. -/
theorem Location.eq_root_or_child (place : Location) :
    place = .root ∨ ∃ name, place = place.parent.child name := by
  cases names : place.names with
  | nil => exact .inl (Location.ext names)
  | cons name above =>
    refine .inr ⟨name, Location.ext ?_⟩
    simp [child, parent, names]

namespace FileTree

variable {t u : FileTree} {path name : String} {place there : Location}

structure WellFormed (t : FileTree) : Prop where
  housed : ∀ (place : Location) (name : String), t.nodeAt? (place.child name) ≠ none →
    t.nodeAt? place = some .directory
  named : ∀ (place : Location) (name : String), t.nodeAt? (place.child name) ≠ none →
    PlainApplication name

/-- A place that something can be put at: a directory that is there, or a name in one. -/
inductive Reached (t : FileTree) : Location → Prop where
  | directory {place : Location} (found : t.nodeAt? place = some .directory) : Reached t place
  | child {place : Location} {name : String} (found : t.nodeAt? place = some .directory)
      (plain : PlainApplication name) : Reached t (place.child name)

theorem Sound.of_locate (located : t.locate path = .ok place) : Sound path := by
  unfold locate at located
  split at located
  · cases located
  · split at located
    · cases located
    · rename_i noZero short
      exact ⟨by simpa using noZero, Nat.le_of_not_lt short⟩

/-- A path leads along its names. -/
theorem walk_of_locate (located : t.locate path = .ok place) :
    (Path.names path).foldlM t.enter .root = .ok place := by
  rw [← t.locate_eq (Sound.of_locate located), located]

namespace WellFormed

/-- What a directory is in is a directory. -/
theorem parent (wf : t.WellFormed) (directory : t.nodeAt? place = some .directory) :
    t.nodeAt? place.parent = some .directory := by
  rcases place.eq_root_or_child with rfl | ⟨name, child⟩
  · exact directory
  · refine wf.housed place.parent name ?_
    rw [← child, directory]
    exact Option.some_ne_none _

/-- From a directory a name leads to a place that can be reached. -/
theorem reached_enter (wf : t.WellFormed) (listed : name ∈ Path.names path) (sound : Sound path)
    (entered : t.enter place name = .ok there) : t.Reached there := by
  have directory := directory_of_enter entered
  rcases enter_cases entered with ⟨-, rfl⟩ | ⟨-, rfl⟩ | ⟨notHere, notAbove, short, rfl⟩
  · exact .directory directory
  · exact .directory (wf.parent directory)
  · obtain ⟨present, noSlash, inside⟩ := Path.mem_names listed
    have noZero : '\x00' ∉ name.toList := fun zero => sound.noZero (inside _ zero)
    exact .child directory { noSlash, noZero, short, present, notHere, notAbove }

/-- A path leads to a place that can be reached. -/
theorem reached_locate (wf : t.WellFormed) (located : t.locate path = .ok place) :
    t.Reached place := by
  have sound := Sound.of_locate located
  have along : ∀ names : List String, (∀ name ∈ names, name ∈ Path.names path) →
      ∀ {first last : Location}, t.Reached first → names.foldlM t.enter first = .ok last →
        t.Reached last := by
    intro names listed
    induction names with
    | nil =>
      rintro first last reached ⟨⟩
      exact reached
    | cons name rest ih =>
      intro first last reached walked
      rw [List.foldlM_cons] at walked
      obtain ⟨next, entered, others⟩ := bind_ok walked
      exact ih (fun name member => listed name (List.mem_cons_of_mem _ member))
        (wf.reached_enter (listed name (List.mem_cons_self ..)) sound entered) others
  exact along _ (fun _ listed => listed) (.directory t.nodeAt?_root) (walk_of_locate located)

/-- What can be reached is the root or a name in a directory. -/
theorem of_reached (wf : t.WellFormed) (reached : t.Reached place) :
    place = .root ∨ ∃ name, t.nodeAt? place.parent = some .directory ∧ PlainApplication name ∧
      place = place.parent.child name := by
  rcases place.eq_root_or_child with rfl | ⟨name, child⟩
  · exact .inl rfl
  · refine .inr ⟨name, ?_⟩
    cases reached with
    | directory found =>
      have present : t.nodeAt? (place.parent.child name) ≠ none := by
        rw [← child, found]
        exact Option.some_ne_none _
      exact ⟨wf.housed _ _ present, wf.named _ _ present, child⟩
    | @child above other found plain =>
      obtain ⟨same, rfl⟩ := Location.child_inj.mp child
      rw [← same]
      exact ⟨found, plain, rfl⟩

/-- Something can be put at a place that can be reached, unless it is a directory. -/
theorem insert (wf : t.WellFormed) (reached : t.Reached place)
    (free : t.nodeAt? place ≠ some .directory) (node : Node) :
    WellFormed ⟨t.nodes.insert place node⟩ := by
  have agrees := t.nodeAt?_insert node (ne_root_of_nodeAt? free)
  have kept := KeepsDirectories.insert node free
  have old (above : Location) (name : String)
      (present : (⟨t.nodes.insert place node⟩ : FileTree).nodeAt? (above.child name) ≠ none) :
      t.nodeAt? above = some .directory ∧ PlainApplication name := by
    rw [agrees] at present
    split at present
    · rename_i here
      subst here
      rcases wf.of_reached reached with root | ⟨other, found, plain, child⟩
      · cases congrArg Location.depth root
      · obtain ⟨same, rfl⟩ := Location.child_inj.mp child
        rw [← same] at found
        exact ⟨found, plain⟩
    · exact ⟨wf.housed _ _ present, wf.named _ _ present⟩
  constructor
  · exact fun above name present => kept _ (old above name present).1
  · exact fun above name present => (old above name present).2

theorem write (wf : t.WellFormed) {file : File} (written : t.write path file = .ok u) :
    u.WellFormed := by
  obtain ⟨place, located, free, rfl⟩ := write_ok written
  exact wf.insert (wf.reached_locate located) free _

theorem ensureDirectory (wf : t.WellFormed) (path : String) :
    (t.ensureDirectory path).1.WellFormed := by
  rcases t.ensureDirectory_cases path with same | ⟨place, located, absent, made⟩
  · rw [same]
    exact wf
  · rw [made]
    exact wf.insert (wf.reached_locate located) (by simp [absent]) _

theorem ensureDirectories (wf : t.WellFormed) (most : Nat) (path : String) :
    (t.ensureDirectories most path).1.WellFormed :=
  ensureDirectories_keeps (fun _ path wf => wf.ensureDirectory path) wf most path

end WellFormed

end FileTree

end CounterArchive
