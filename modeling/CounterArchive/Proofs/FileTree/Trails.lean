import CounterArchive.Proofs.FileTree.Growth
import CounterArchive.Proofs.FileTree.Listing
import Mathlib.Data.List.Induction

/-! The ways that paths take through a tree. Directories that are made for a path lie on its way, so
that other paths are not led anywhere else by them, as long as no way goes up again. -/
namespace CounterArchive.FileTree

open CounterArchive.Path (names)

variable {t u : FileTree} {path name : String} {way front : List String} {place there : Location}

/-- Names lead from the root to a place, each of them through a directory. -/
def Leads (t : FileTree) (way : List String) (place : Location) : Prop :=
  way.foldlM t.enter .root = .ok place

theorem leads_append_iff : t.Leads (front ++ [name]) place ↔
    ∃ above, t.Leads front above ∧ t.enter above name = .ok place := by
  rw [Leads, walk_append]
  constructor
  · exact bind_ok
  · rintro ⟨above, led, entered⟩
    rw [Leads] at led
    rw [led]
    exact entered

theorem Leads.unique (first : t.Leads way place) (second : t.Leads way there) : place = there :=
  Except.ok.inj (first.symm.trans second)

/-- A way to a directory leads through directories alone. -/
theorem Leads.prefix (leads : t.Leads way place) (directory : t.nodeAt? place = some .directory)
    (begins : front <+: way) :
    ∃ above, t.Leads front above ∧ t.nodeAt? above = some .directory := by
  induction way using List.reverseRecOn generalizing place with
  | nil =>
    obtain rfl := List.prefix_nil.mp begins
    exact ⟨place, leads, directory⟩
  | append_singleton rest name ih =>
    rcases List.prefix_concat_iff.mp begins with rfl | shorter
    · exact ⟨place, leads, directory⟩
    · obtain ⟨above, led, entered⟩ := leads_append_iff.mp leads
      exact ih led (directory_of_enter entered) shorter

/-- Each name leads one step down at most. -/
theorem depth_of_enter (entered : t.enter place name = .ok there) :
    there.depth ≤ place.depth + 1 := by
  rcases enter_cases entered with ⟨-, rfl⟩ | ⟨-, rfl⟩ | ⟨-, -, -, rfl⟩
  · exact Nat.le_succ _
  · exact Nat.le_succ_of_le (Nat.sub_le _ _)
  · exact Nat.le_refl _

/-- A way that never goes up does not lead out of the places on it. -/
theorem Leads.depth_le (leads : t.Leads way place) (down : ".." ∉ way) (begins : front <+: way)
    (before : t.Leads front there) : there.depth ≤ place.depth := by
  induction way using List.reverseRecOn generalizing place with
  | nil =>
    obtain rfl := List.prefix_nil.mp begins
    exact Nat.le_of_eq (congrArg Location.depth (before.unique leads))
  | append_singleton rest name ih =>
    rcases List.prefix_concat_iff.mp begins with rfl | shorter
    · exact Nat.le_of_eq (congrArg Location.depth (before.unique leads))
    · obtain ⟨above, led, entered⟩ := leads_append_iff.mp leads
      have reached := ih led (fun up => down (List.mem_append_left _ up)) shorter
      rcases enter_cases entered with ⟨-, rfl⟩ | ⟨rfl, -⟩ | ⟨-, -, -, rfl⟩
      · exact reached
      · exact absurd (List.mem_append_right _ (List.mem_singleton_self _)) down
      · exact Nat.le_succ_of_le reached

/-- It leads to a directory in each tree that has it. -/
theorem Leads.of_directory (leads : u.Leads way place) (down : ".." ∉ way) (wf : t.WellFormed)
    (directory : t.nodeAt? place = some .directory) : t.Leads way place := by
  induction way using List.reverseRecOn generalizing place with
  | nil => exact leads
  | append_singleton rest name ih =>
    obtain ⟨above, led, entered⟩ := leads_append_iff.mp leads
    have inside : t.nodeAt? above = some .directory := by
      rcases enter_cases entered with ⟨-, rfl⟩ | ⟨rfl, -⟩ | ⟨-, -, -, rfl⟩
      · exact directory
      · exact absurd (List.mem_append_right _ (List.mem_singleton_self _)) down
      · exact wf.housed above name (by simp [directory])
    exact leads_append_iff.mpr ⟨above, ih led (fun up => down (List.mem_append_left _ up)) inside,
      enter_of_directory entered inside⟩

/-! New directories -/

def GrowsAlong (t u : FileTree) (way : List String) : Prop :=
  ∀ place, t.nodeAt? place = none → u.nodeAt? place ≠ none →
    ∃ front, front <+: way ∧ u.Leads front place

namespace GrowsAlong

theorem refl (t : FileTree) (way : List String) : t.GrowsAlong t way :=
  fun _ absent present => absurd absent present

theorem trans {v : FileTree} (first : t.GrowsAlong u front) (begins : front <+: way)
    (second : u.GrowsAlong v way) (keeps : u.KeepsDirectories v) : t.GrowsAlong v way := by
  intro place absent present
  by_cases between : u.nodeAt? place = none
  · exact second place between present
  · obtain ⟨shorter, part, led⟩ := first place absent between
    exact ⟨shorter, part.trans begins, keeps.walk led⟩

theorem mono (along : t.GrowsAlong u front) (begins : front <+: way) : t.GrowsAlong u way := by
  intro place absent present
  obtain ⟨shorter, part, led⟩ := along place absent present
  exact ⟨shorter, part.trans begins, led⟩

end GrowsAlong

theorem growsAlong_ensureDirectory (t : FileTree) (path : String) :
    t.GrowsAlong (t.ensureDirectory path).1 (names path) := by
  have keeps := (t.growsTo_ensureDirectory path).keepsDirectories
  rcases t.ensureDirectory_cases path with same | ⟨place, located, absent, made⟩
  · rw [same]
    exact .refl t _
  · intro there free present
    refine ⟨names path, List.prefix_refl _, ?_⟩
    rw [made, nodeAt?_insert t .directory (ne_root_of_nodeAt? (t := t) (by simp [absent]))] at present
    split at present
    · rename_i here
      subst here
      exact keeps.walk (walk_of_locate located)
    · exact absurd free present

/-- Directories that are made for a path lie on its way, even if not all can be made. -/
theorem growsAlong_makeDirectories (t : FileTree) (path : String) :
    t.GrowsAlong (t.makeDirectories path).1 (names path) := by
  have begins := Path.names_directoryOf_prefix
  fun_induction makeDirectories t path with
  | case1 path parent missing u failed made fault ih =>
    rw [made] at ih
    exact ih.trans (begins path) (.refl u _) (GrowsTo.refl u).keepsDirectories
  | case2 path parent missing u failed made fine here ih =>
    rw [made] at ih
    exact ih.trans (begins path) (.refl u _) (GrowsTo.refl u).keepsDirectories
  | case3 path parent missing u failed made fine named ih =>
    rw [made] at ih
    exact ih.trans (begins path) (growsAlong_ensureDirectory u path)
      (growsTo_ensureDirectory u path).keepsDirectories
  | case4 path => exact growsAlong_ensureDirectory t path

theorem growsAlong_ensureDirectories (t : FileTree) (most : Nat) (path : String) :
    t.GrowsAlong (t.ensureDirectories most path).1 (names path) := by
  unfold ensureDirectories
  split
  · exact .refl t _
  · exact growsAlong_makeDirectories t path

/-- So does a file that is put at it. -/
theorem growsAlong_write {file : File} (written : t.write path file = .ok u) :
    t.GrowsAlong u (names path) := by
  obtain ⟨place, located, free, rfl⟩ := write_ok written
  intro there absent present
  refine ⟨names path, List.prefix_refl _, ?_⟩
  rw [nodeAt?_insert t _ (ne_root_of_nodeAt? free)] at present
  split at present
  · rename_i here
    subst here
    exact (keepsDirectories_of_write written).walk (walk_of_locate located)
  · exact absurd absent present

/-! Directories that cannot be made -/

/-- A path leads to the same directory whatever directories are made: it is there already, or its way
never goes up, so that it cannot be led around something that is not there yet. -/
def Steady (t : FileTree) (path : String) : Prop :=
  (∃ place, t.Opens path place) ∨ ".." ∉ names path

namespace Steady

/-- A directory that was there has been found there. -/
theorem opens (steady : t.Steady path) (wf : t.WellFormed) (keeps : t.KeepsDirectories u)
    (after : u.Opens path place) (directory : t.nodeAt? place = some .directory) :
    t.Opens path place := by
  rcases steady with ⟨there, before⟩ | down
  · have same := (keeps.locate before.located).symm.trans after.located
    cases same
    exact before
  · have led := Leads.of_directory (walk_of_locate after.located) down wf directory
    refine ⟨?_, directory⟩
    rw [t.locate_eq (Sound.of_locate after.located)]
    exact led

/-- What is made on the way to a name in it lies at most one step below. -/
theorem depth_le (steady : t.Steady path) (keeps : t.KeepsDirectories u)
    (along : t.GrowsAlong u (names path ++ [name])) (after : u.Opens path place)
    (absent : t.nodeAt? there = none) (present : u.nodeAt? there ≠ none) :
    there.depth ≤ place.depth + 1 := by
  have led := walk_of_locate after.located
  obtain ⟨front, begins, leads⟩ := along there absent present
  rcases List.prefix_concat_iff.mp begins with rfl | shorter
  · obtain ⟨above, before, entered⟩ := leads_append_iff.mp leads
    rw [Leads.unique led before]
    exact depth_of_enter entered
  · rcases steady with ⟨home, opens⟩ | down
    · -- The way was there before, and so was the place that it leads to.
      obtain ⟨above, before, directory⟩ :=
        Leads.prefix (walk_of_locate opens.located) opens.directory shorter
      rw [leads.unique (keeps.walk before), directory] at absent
      cases absent
    · exact Nat.le_succ_of_le (Leads.depth_le led down shorter leads)

end Steady

end CounterArchive.FileTree
