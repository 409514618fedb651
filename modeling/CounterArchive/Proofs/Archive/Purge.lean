import CounterArchive.Proofs.Archive.Store
import CounterArchive.Snapshot.Purge

/-! A purge takes entries of one application off the shelf: those that vanish, and those that are
obsolete and not locked. -/
namespace CounterArchive

open Archive

namespace Shelf

/-- Takes off the entries of an application that are not to be kept. They are told by the names of
their files. -/
def sift (shelf : Shelf) (application : String) (keep : String → Entry → Bool) : Shelf :=
  fun a s =>
    if a = application then (shelf a s).filter (keep (s ++ Settings.snapshotSuffix))
    else shelf a s

end Shelf

def Disturbance.keeps (d : Disturbance) (cutoff : Int) (name : String) (entry : Entry) : Bool :=
  !d.vanishing.contains name &&
    (!Retention.isObsolete cutoff entry.modified || d.locked.contains name)

namespace Stocked

variable {s : Settings} {base : Location} {t : FileTree} {shelf other : Shelf}
  {application : String}

theorem congr (stock : Stocked s base t shelf)
    (same : ∀ application stored, PlainApplication application → PlainStored stored →
      other application stored = shelf application stored) : Stocked s base t other := by
  constructor
  case place => exact stock.place
  case located => exact stock.located
  case founded => exact stock.founded
  case archived => exact stock.archived
  case listed => exact stock.listed
  case stored =>
    intro application stored plain plainStored
    rw [same application stored plain plainStored]
    exact stock.stored application stored plain plainStored
  case housed => exact stock.housed

/-- Steps through names that decide on one entry each, decide on all of them. -/
theorem foldl_sift {σ : Type} (files : σ → FileTree) (step : σ → String → σ)
    (keep : String → Entry → Bool) {names : List String} {x : σ}
    (decides : ∀ x shelf stored, Stocked s base (files x) shelf → PlainStored stored →
      stored ++ Settings.snapshotSuffix ∈ names →
      Stocked s base (files (step x (stored ++ Settings.snapshotSuffix)))
        (shelf.set application stored
          ((shelf application stored).filter (keep (stored ++ Settings.snapshotSuffix)))))
    (plain : ∀ name ∈ names, ∃ stored, PlainStored stored ∧
      name = stored ++ Settings.snapshotSuffix)
    (stock : Stocked s base (files x) shelf) :
    Stocked s base (files (names.foldl step x))
      (shelf.sift application fun name entry => !names.contains name || keep name entry) := by
  induction names generalizing x shelf with
  | nil =>
    refine stock.congr fun a stored _ _ => ?_
    cases kept : shelf a stored <;> simp [Shelf.sift, kept]
  | cons name rest ih =>
    obtain ⟨stored, plainStored, rfl⟩ := plain name (List.mem_cons_self ..)
    have first := decides x shelf stored stock plainStored (List.mem_cons_self ..)
    have others := ih
      (fun x shelf stored stock plainStored listed =>
        decides x shelf stored stock plainStored (List.mem_cons_of_mem _ listed))
      (fun name listed => plain name (List.mem_cons_of_mem _ listed)) first
    rw [List.foldl_cons]
    refine others.congr fun a there _ _ => ?_
    by_cases here : a = application
    · subst here
      by_cases same : there = stored
      · subst same
        cases kept : shelf a there with
        | none => simp [Shelf.sift, Shelf.set, kept]
        | some entry =>
          by_cases keeps : keep (there ++ Settings.snapshotSuffix) entry = true
          all_goals simp [Shelf.sift, Shelf.set, kept, keeps, Option.filter]
      · simp [Shelf.sift, Shelf.set, same]
    · simp [Shelf.sift, Shelf.set, here]

variable {stored : String} {entry : Entry}

theorem listed_of_kept (stock : Stocked s base t shelf) (plain : PlainApplication application)
    (plainStored : PlainStored stored) (kept : shelf application stored = some entry) :
    t.nodeAt? (directory base application) = some .directory := by
  rcases stock.listed application plain with absent | ⟨listed, -⟩
  · rw [stock.shelf_of_absent plain plainStored absent] at kept
    cases kept
  · exact listed

theorem remove_kept (stock : Stocked s base t shelf) (plain : PlainApplication application)
    (plainStored : PlainStored stored) (kept : shelf application stored = some entry) :
    ∃ u, t.remove (s.snapshotPath application stored) = .ok u ∧
      Stocked s base u (shelf.set application stored none) := by
  obtain ⟨file, -, located, node⟩ := stock.exists_node plain plainStored kept
  refine ⟨_, FileTree.remove_of_locate located node, ?_⟩
  refine stock.setEntry plain plainStored none (by simp) .absent ?_
  exact FileTree.nodeAt?_erase t (snapshot_ne base application stored)

theorem remove_absent (stock : Stocked s base t shelf) (plain : PlainApplication application)
    (plainStored : PlainStored stored) (absent : shelf application stored = none) :
    ∃ fault, t.remove (s.snapshotPath application stored) = .error fault := by
  have found := stock.file?_absent plain plainStored absent
  cases removed : t.remove (s.snapshotPath application stored) with
  | error fault => exact ⟨fault, rfl⟩
  | ok u =>
    obtain ⟨file, present⟩ := FileTree.file?_of_remove removed
    rw [found] at present
    cases present

theorem set_same (stock : Stocked s base t shelf) {entry : Option Entry}
    (same : shelf application stored = entry) :
    Stocked s base t (shelf.set application stored entry) := by
  refine stock.congr fun a there _ _ => ?_
  rw [Shelf.set]
  split
  · rename_i here
    rw [here.1, here.2, same]
  · rfl

theorem vanish_one (stock : Stocked s base t shelf) (plain : PlainApplication application)
    (plainStored : PlainStored stored) :
    Stocked s base ((t.remove (s.snapshotPath application stored)).toOption.getD t)
      (shelf.set application stored ((shelf application stored).filter fun _ => false)) := by
  cases kept : shelf application stored with
  | none =>
    obtain ⟨fault, removed⟩ := stock.remove_absent plain plainStored kept
    rw [removed]
    exact stock.set_same kept
  | some entry =>
    obtain ⟨u, removed, stockAfter⟩ := stock.remove_kept plain plainStored kept
    rw [removed]
    exact stockAfter

/-- What vanishes is off the shelf. -/
theorem vanish (stock : Stocked s base t shelf) (plain : PlainApplication application)
    (names : List String) (plainNames : ∀ name ∈ names, ∃ stored, PlainStored stored ∧
      name = stored ++ Settings.snapshotSuffix) :
    Stocked s base (World.vanish t (s.directoryOf application) names)
      (shelf.sift application fun name _ => !names.contains name) := by
  have all := foldl_sift id (fun t name =>
      (t.remove (Path.join (s.directoryOf application) name)).toOption.getD t) (fun _ _ => false)
    (fun t shelf stored stock plainStored _ => stock.vanish_one plain plainStored) plainNames stock
  rw [World.vanish]
  simpa using all

/-- One visit of a purge decides on one entry. -/
theorem visit {locked : List String} {cutoff : Int} {sweep : Sweep}
    (stock : Stocked s base sweep.files shelf) (plain : PlainApplication application)
    (plainStored : PlainStored stored) :
    Stocked s base (sweep.visit locked (s.directoryOf application) cutoff
        (stored ++ Settings.snapshotSuffix)).files
      (shelf.set application stored ((shelf application stored).filter fun entry =>
        !Retention.isObsolete cutoff entry.modified ||
          locked.contains (stored ++ Settings.snapshotSuffix))) := by
  have path : Path.join (s.directoryOf application) (stored ++ Settings.snapshotSuffix) =
      s.snapshotPath application stored := rfl
  cases kept : shelf application stored with
  | none =>
    have missing := stock.file?_absent plain plainStored kept
    unfold Sweep.visit
    simp only [path, missing]
    exact stock.set_same kept
  | some entry =>
    obtain ⟨file, inFile, found⟩ := stock.file?_kept plain plainStored kept
    obtain ⟨u, removed, stockAfter⟩ := stock.remove_kept plain plainStored kept
    unfold Sweep.visit
    simp only [path, found, inFile.modified, removed]
    by_cases old : Retention.isObsolete cutoff entry.modified = true
    · by_cases held : stored ++ Settings.snapshotSuffix ∈ locked
      · simp only [old, Option.filter, List.contains_iff_mem.mpr held, Bool.not_true, Bool.or_true,
          Bool.false_eq_true, if_false, if_true]
        exact stock.set_same kept
      · simpa [old, held, Option.filter] using stockAfter
    · have same := stock.set_same kept
      simpa [old, Option.filter, Sweep.keep] using same

theorem isFile_kept (stock : Stocked s base t shelf) (plain : PlainApplication application)
    (plainStored : PlainStored stored) (kept : shelf application stored = some entry) :
    t.isFile (s.snapshotPath application stored) = true := by
  obtain ⟨file, -, located, node⟩ := stock.exists_node plain plainStored kept
  rw [FileTree.isFile, FileTree.node?_of_locate located node]
  rfl

theorem isSnapshotName_append (stored : String) :
    World.isSnapshotName (stored ++ Settings.snapshotSuffix) = true := by
  rw [World.isSnapshotName, String.toList_append, List.isSuffixOf_iff_suffix]
  exact List.suffix_append _ _

end Stocked

namespace World

variable {w : World} {base : Location} {shelf : Shelf} {application : String}

/-- The files that a purge looks at are those of the entries. -/
theorem snapshotNames_stocked (stock : Stocked w.settings base w.files shelf)
    (plain : PlainApplication application) :
    ∃ names, w.snapshotNames (w.settings.directoryOf application) = .ok names ∧
      (∀ name ∈ names, ∃ stored, PlainStored stored ∧ name = stored ++ Settings.snapshotSuffix) ∧
      ∀ stored entry, PlainStored stored → shelf application stored = some entry →
        stored ++ Settings.snapshotSuffix ∈ names := by
  rcases stock.listed application plain with absent | ⟨listed, archived⟩
  · refine ⟨[], ?_, ?_, ?_⟩
    · have failed : w.files.list (w.settings.directoryOf application) = .error .notFound := by
        have located := stock.locate_directoryOf plain
        rcases stock.archived with noArchive | archived
        · rw [FileTree.enter_absent noArchive] at located
          exact FileTree.list_of_error located
        · rw [FileTree.enter_plain plain archived] at located
          exact FileTree.list_of_absent located absent
      rw [snapshotNames, failed]
    · intro name listed
      cases listed
    · intro stored entry plainStored kept
      rw [stock.shelf_of_absent plain plainStored absent] at kept
      cases kept
  · have located : w.files.locate (w.settings.directoryOf application) =
        .ok (directory base application) := by
      rw [stock.locate_directoryOf plain]
      exact FileTree.enter_plain plain archived
    have names := FileTree.list_of_directory located listed
    refine ⟨_, by rw [snapshotNames, names], ?_, ?_⟩
    · intro name member
      have there := FileTree.mem_namesIn.mp (List.mem_filter.mp member).1
      exact (stock.housed application name plain there).2
    · intro stored entry plainStored kept
      obtain ⟨file, -, -, node⟩ := stock.exists_node plain plainStored kept
      rw [List.mem_filter]
      constructor
      · refine FileTree.mem_namesIn.mpr ?_
        change w.files.nodeAt? (snapshot base application stored) ≠ none
        rw [node]
        exact Option.some_ne_none _
      · have file : w.files.isFile (Path.join (w.settings.directoryOf application)
            (stored ++ Settings.snapshotSuffix)) = true :=
          stock.isFile_kept plain plainStored kept
        rw [Stocked.isSnapshotName_append, file]
        rfl

theorem purgeAt_stocked (stock : Stocked w.settings base w.files shelf)
    (plain : PlainApplication application) (d : Disturbance) (millis days : Int) :
    ∃ v retained, w.purgeAt d application millis days = (v, .ok retained) ∧
      w.SameBesidesFiles v ∧ Stocked w.settings base v.files
        (shelf.sift application (d.keeps (Retention.cutoff millis days))) := by
  obtain ⟨names, listed, plainNames, complete⟩ := snapshotNames_stocked stock plain
  have vanished := stock.vanish plain (names.filter d.vanishing.contains) fun name member =>
    plainNames name (List.mem_filter.mp member).1
  have swept := Stocked.foldl_sift Sweep.files
    (Sweep.visit d.locked (w.settings.directoryOf application) (Retention.cutoff millis days))
    (fun name entry => !Retention.isObsolete (Retention.cutoff millis days) entry.modified ||
      d.locked.contains name)
    (fun sweep shelf stored stock plainStored _ => stock.visit plain plainStored) plainNames
    (x := Sweep.mk _ 0 0 []) vanished
  unfold purgeAt
  dsimp only
  rw [listed]
  refine ⟨_, _, rfl, ⟨rfl, rfl, rfl, rfl, rfl, rfl, rfl⟩, ?_⟩
  refine swept.congr fun a stored _ plainStored => ?_
  by_cases here : a = application
  · subst here
    cases kept : shelf a stored with
    | none => simp [Shelf.sift, kept]
    | some entry =>
      have member := complete stored entry plainStored kept
      by_cases gone : stored ++ Settings.snapshotSuffix ∈ d.vanishing
      · simp [Shelf.sift, Disturbance.keeps, kept, member, gone, Option.filter]
      · simp [Shelf.sift, Disturbance.keeps, kept, member, gone, Option.filter]
  · simp [Shelf.sift, here]

end World

end CounterArchive
