import CounterArchive.Proofs.FileTree.WellFormed
import CounterArchive.Snapshot.Purge

/-! The snapshots in a directory, with their names in order, and what is left of them when some files
are taken out of the directory. -/
namespace CounterArchive.FileTree

open CounterArchive.Path

variable {t u v : FileTree} {path name : String} {place : Location}

/-! Names in order -/

theorem nodup_namesIn (t : FileTree) (place : Location) : (t.namesIn place).Nodup := by
  rw [namesIn, (List.mergeSort_perm _ _).nodup_iff, List.nodup_iff_pairwise_ne,
    List.pairwise_filterMap]
  refine List.Pairwise.imp ?_ (List.nodup_iff_pairwise_ne.mp t.nodes.distinct)
  intro first second different one found other also same
  subst same
  split at found
  · rename_i inside
    split at also
    · rename_i alsoInside
      apply different
      apply Location.ext
      obtain ⟨rest, split⟩ := List.head?_eq_some_iff.mp found
      obtain ⟨more, cut⟩ := List.head?_eq_some_iff.mp also
      have tail : first.names.tail = second.names.tail :=
        congrArg Location.names (inside.trans alsoInside.symm)
      rw [split, cut, List.tail_cons, List.tail_cons] at tail
      rw [split, cut, tail]
    · cases also
  · cases found

theorem sorted_namesIn (t : FileTree) (place : Location) :
    (t.namesIn place).Pairwise fun a b => a ≤ b := by
  have ordered : (t.namesIn place).Pairwise fun a b => (!decide (b < a)) = true := by
    apply List.pairwise_mergeSort
    · intro a b c first second
      simp only [Bool.not_eq_true', decide_eq_false_iff_not, String.not_lt] at first second ⊢
      exact String.le_trans first second
    · intro a b
      simp only [Bool.or_eq_true, Bool.not_eq_true', decide_eq_false_iff_not, String.not_lt]
      exact String.le_total a b
  refine ordered.imp ?_
  intro a b fine
  simp only [Bool.not_eq_true', decide_eq_false_iff_not, String.not_lt] at fine
  exact fine

/-- Names are told by what is among them: their order is always the same. -/
theorem namesIn_eq_filter {kept : String → Bool}
    (same : ∀ name, name ∈ u.namesIn place ↔ name ∈ t.namesIn place ∧ kept name = true) :
    u.namesIn place = (t.namesIn place).filter kept := by
  have perm : (u.namesIn place).Perm ((t.namesIn place).filter kept) := by
    rw [List.perm_ext_iff_of_nodup (u.nodup_namesIn place) ((t.nodup_namesIn place).filter _)]
    intro name
    rw [same, List.mem_filter]
  exact perm.eq_of_pairwise (fun _ _ _ _ => String.le_antisymm) (u.sorted_namesIn place)
    ((t.sorted_namesIn place).filter _)

/-! Files in a directory -/

structure Opens (t : FileTree) (path : String) (place : Location) : Prop where
  located : t.locate path = .ok place
  directory : t.nodeAt? place = some .directory

theorem Opens.locate_join (opens : t.Opens path place) (plain : PlainApplication name)
    (sound : Sound (join path name)) : t.locate (join path name) = .ok (place.child name) := by
  rw [t.locate_append sound (Sound.of_locate opens.located)
    (names_join_name path plain.noSlash plain.present), opens.located]
  exact enter_plain plain opens.directory

/-- A path that leads to a name in a directory leads there through the directory. -/
theorem opens_of_locate_join (noSlash : '/' ∉ name.toList) (named : name ≠ "") (noDot : name ≠ ".")
    (noDots : name ≠ "..") (located : t.locate (join path name) = .ok place) :
    ∃ above : Location, t.Opens path above ∧ place = above.child name := by
  have sound := Sound.of_locate located
  have soundAbove := sound.of_join noSlash
  rw [t.locate_append sound soundAbove (names_join_name path noSlash named)] at located
  obtain ⟨above, found, entered⟩ := bind_ok located
  exact ⟨above, ⟨found, directory_of_enter entered⟩, child_of_enter noDot noDots entered⟩

/-- Under a name without slashes a snapshot is a file in the directory of its application. -/
theorem opens_of_locate_snapshotPath {s : Settings} {application stored : String}
    (noSlash : '/' ∉ stored.toList)
    (located : t.locate (s.snapshotPath application stored) = .ok place) :
    ∃ above : Location, t.Opens (s.directoryOf application) above ∧
      place = above.child (stored ++ Settings.snapshotSuffix) :=
  opens_of_locate_join (PlainStored.noSlash_snapshotName noSlash)
    (PlainStored.snapshotName_ne stored (by decide))
    (PlainStored.snapshotName_ne stored (by decide))
    (PlainStored.snapshotName_ne stored (by decide)) located

theorem Opens.file?_join_iff (opens : t.Opens path place) (plain : PlainApplication name)
    {file : File} : t.file? (join path name) = .ok file ↔
      Sound (join path name) ∧ t.nodeAt? (place.child name) = some (.file file) := by
  constructor
  · intro found
    obtain ⟨there, located, node⟩ := locate_of_file? found
    have sound := Sound.of_locate located
    rw [opens.locate_join plain sound] at located
    cases located
    exact ⟨sound, node⟩
  · rintro ⟨sound, node⟩
    exact file?_of_locate (opens.locate_join plain sound) node

theorem isFile_iff : t.isFile path = true ↔ ∃ file, t.file? path = .ok file := by
  unfold isFile file?
  rcases t.node? path with fault | _ | file
  · simp [Except.toOption, bind, Except.bind]
  · simp [Except.toOption, bind, Except.bind, throw, throwThe, MonadExceptOf.throw]
  · simp [Except.toOption, bind, Except.bind, pure, Except.pure]

def filesAmong (t : FileTree) (path : String) (names : List String) : List (String × File) :=
  names.filterMap fun name => (t.file? (join path name)).toOption.map (Prod.mk name)

theorem filesAmong_cons (t : FileTree) (path name : String) (names : List String) :
    t.filesAmong path (name :: names) =
      match t.file? (join path name) with
      | .error _ => t.filesAmong path names
      | .ok file => (name, file) :: t.filesAmong path names := by
  rw [filesAmong, List.filterMap_cons]
  rcases t.file? (join path name) with fault | file <;> rfl

theorem filesAmong_append (t : FileTree) (path : String) (first second : List String) :
    t.filesAmong path (first ++ second) = t.filesAmong path first ++ t.filesAmong path second :=
  List.filterMap_append

/-- Only names that were looked at are found. -/
theorem fst_mem_of_mem_filesAmong {t : FileTree} {path : String} {names : List String}
    {entry : String × File} (listed : entry ∈ t.filesAmong path names) : entry.1 ∈ names := by
  obtain ⟨name, member, found⟩ := List.mem_filterMap.mp listed
  obtain ⟨file, -, rfl⟩ := Option.map_eq_some_iff.mp found
  exact member

theorem filesAmong_filter (t : FileTree) (path : String) (kept : String → Bool)
    (names : List String) :
    t.filesAmong path (names.filter kept) =
      (t.filesAmong path names).filter fun entry => kept entry.1 := by
  induction names with
  | nil => rfl
  | cons name rest ih =>
    rcases found : t.file? (join path name) with fault | file
    · cases here : kept name <;> simp [filesAmong_cons, found, here, ih]
    · cases here : kept name <;> simp [filesAmong_cons, found, here, ih]

/-- What is found is found again under its names. -/
theorem filesAmong_names (t : FileTree) (path : String) (names : List String) :
    t.filesAmong path ((t.filesAmong path names).map Prod.fst) = t.filesAmong path names := by
  induction names with
  | nil => rfl
  | cons name rest ih =>
    rcases found : t.file? (join path name) with fault | file
    · simp only [filesAmong_cons, found, ih]
    · simp only [filesAmong_cons, found, List.map_cons, ih]

theorem map_fst_filesAmong (t : FileTree) (path : String) (names : List String) :
    (t.filesAmong path names).map Prod.fst = names.filter fun name => t.isFile (join path name) := by
  induction names with
  | nil => rfl
  | cons name rest ih =>
    rcases found : t.file? (join path name) with fault | file
    · have no : t.isFile (join path name) = false := by
        rw [Bool.eq_false_iff, ne_eq, isFile_iff]
        rintro ⟨file, there⟩
        rw [found] at there
        cases there
      simp [filesAmong_cons, found, no, ih]
    · simp [filesAmong_cons, found, isFile_iff.mpr ⟨file, found⟩, ih]

def snapshots (t : FileTree) (path : String) : List (String × File) :=
  match t.list path with
  | .error _ => []
  | .ok names => t.filesAmong path (names.filter World.isSnapshotName)

theorem Opens.snapshots_eq (opens : t.Opens path place) :
    t.snapshots path = t.filesAmong path ((t.namesIn place).filter World.isSnapshotName) := by
  rw [snapshots, list_of_directory opens.located opens.directory]

/-- There are snapshots only in directories. -/
theorem snapshots_of_not_opens (closed : ∀ place, ¬ t.Opens path place) : t.snapshots path = [] := by
  have failed : ∃ fault, t.list path = .error fault := by
    cases located : t.locate path with
    | error fault => exact ⟨fault, list_of_error located⟩
    | ok place =>
      have other : t.nodeAt? place ≠ some .directory := fun found => closed place ⟨located, found⟩
      rcases found : t.nodeAt? place with _ | _ | file
      · exact ⟨_, list_of_absent located found⟩
      · exact absurd found other
      · rw [list, node?_of_locate located found]
        exact ⟨_, rfl⟩
  obtain ⟨fault, failed⟩ := failed
  rw [snapshots, failed]

/-- What is among the snapshots of a directory: the files in it that have the name of a snapshot, and
a path that is not too long. -/
theorem WellFormed.mem_snapshots_iff (wf : t.WellFormed) (opens : t.Opens path place) {file : File} :
    (name, file) ∈ t.snapshots path ↔ World.isSnapshotName name = true ∧
      Sound (join path name) ∧ t.nodeAt? (place.child name) = some (.file file) := by
  rw [opens.snapshots_eq, filesAmong, List.mem_filterMap]
  simp only [List.mem_filter, mem_namesIn]
  constructor
  · rintro ⟨other, ⟨present, named⟩, found⟩
    obtain ⟨contents, ok, same⟩ := Option.map_eq_some_iff.mp found
    cases same
    rcases read : t.file? (join path name) with fault | contents
    · rw [read] at ok
      cases ok
    · rw [read] at ok
      cases ok
      exact ⟨named, (opens.file?_join_iff (wf.named _ _ present)).mp read⟩
  · rintro ⟨named, sound, found⟩
    have present : t.nodeAt? (place.child name) ≠ none := by
      rw [found]
      exact Option.some_ne_none _
    refine ⟨name, ⟨present, named⟩, ?_⟩
    rw [(opens.file?_join_iff (wf.named _ _ present)).mpr ⟨sound, found⟩]
    rfl

theorem nodup_snapshots (t : FileTree) (path : String) : ((t.snapshots path).map Prod.fst).Nodup := by
  by_cases open? : ∃ place, t.Opens path place
  · obtain ⟨place, opens⟩ := open?
    have names := List.nodup_iff_pairwise_ne.mp
      ((t.nodup_namesIn place).filter World.isSnapshotName)
    rw [opens.snapshots_eq, filesAmong, List.map_filterMap, List.nodup_iff_pairwise_ne,
      List.pairwise_filterMap]
    refine names.imp fun different first found second also same => different ?_
    simp only [Option.map_map, Option.map_eq_some_iff, Function.comp] at found also
    obtain ⟨-, -, rfl⟩ := found
    obtain ⟨-, -, rfl⟩ := also
    exact same
  · rw [snapshots_of_not_opens fun place opens => open? ⟨place, opens⟩]
    exact List.nodup_nil

/-! Files taken out of a directory -/

/-- Of a directory, those files are gone whose names are told. Nothing else has changed. -/
structure Thinned (t u : FileTree) (place : Location) (gone : String → Bool) : Prop where
  taken : ∀ name, gone name = true → u.nodeAt? (place.child name) = none
  kept : ∀ there : Location, (∀ name, gone name = true → there ≠ place.child name) →
    u.nodeAt? there = t.nodeAt? there
  files : ∀ name, gone name = true → t.nodeAt? (place.child name) ≠ some .directory

namespace Thinned

variable {gone more : String → Bool}

theorem refl (t : FileTree) (place : Location) : t.Thinned t place fun _ => false :=
  ⟨(fun _ no => nomatch no), (fun _ _ => rfl), (fun _ no => nomatch no)⟩

theorem child (thinned : t.Thinned u place gone) {name : String} (there : gone name = false) :
    u.nodeAt? (place.child name) = t.nodeAt? (place.child name) := by
  apply thinned.kept
  intro other taken same
  obtain ⟨-, rfl⟩ := Location.child_inj.mp same
  rw [there] at taken
  cases taken

theorem trans (first : t.Thinned u place gone) (second : u.Thinned v place more) :
    t.Thinned v place fun name => gone name || more name := by
  constructor
  · intro name taken
    cases again : more name with
    | true => exact second.taken name again
    | false =>
      rw [second.child again]
      exact first.taken name (by simpa [again] using taken)
  · intro there apart
    rw [second.kept there fun name taken => apart name (by simp [taken]),
      first.kept there fun name taken => apart name (by simp [taken])]
  · intro name taken
    cases before : gone name with
    | true => exact first.files name before
    | false =>
      rw [← first.child before]
      exact second.files name (by simpa [before] using taken)

theorem congr (thinned : t.Thinned u place gone) (same : ∀ name, more name = gone name) :
    t.Thinned u place more := by
  obtain rfl : more = gone := funext same
  exact thinned

/-- Directories stay what they are, -/
theorem directory_iff (thinned : t.Thinned u place gone) (there : Location) :
    u.nodeAt? there = some .directory ↔ t.nodeAt? there = some .directory := by
  by_cases taken : ∃ name, gone name = true ∧ there = place.child name
  · obtain ⟨name, yes, rfl⟩ := taken
    have none := thinned.taken name yes
    have free := thinned.files name yes
    simp [none, free]
  · rw [thinned.kept there fun name yes same => taken ⟨name, yes, same⟩]

theorem keepsDirectories (thinned : t.Thinned u place gone) : t.KeepsDirectories u :=
  fun there => (thinned.directory_iff there).mpr

/-- so that paths lead where they did. -/
theorem opens_iff (thinned : t.Thinned u place gone) {there : Location} :
    u.Opens path there ↔ t.Opens path there := by
  have back : u.KeepsDirectories t := fun there => (thinned.directory_iff there).mp
  constructor
  · exact fun opens => ⟨back.locate opens.located, back _ opens.directory⟩
  · exact fun opens => ⟨thinned.keepsDirectories.locate opens.located,
      thinned.keepsDirectories _ opens.directory⟩

theorem wellFormed (thinned : t.Thinned u place gone) (wf : t.WellFormed) : u.WellFormed := by
  have old {above : Location} {name : String} (present : u.nodeAt? (above.child name) ≠ none) :
      t.nodeAt? (above.child name) ≠ none := by
    rw [← thinned.kept]
    · exact present
    · intro other taken same
      rw [same] at present
      exact present (thinned.taken other taken)
  constructor
  · exact fun above name present => thinned.keepsDirectories _ (wf.housed above name (old present))
  · exact fun above name present => wf.named above name (old present)

/-- A file that is not gone is found as before. -/
theorem file?_join (thinned : t.Thinned u place gone) (opens : t.Opens path place)
    (plain : PlainApplication name) : (u.file? (join path name)).toOption =
      if gone name then none else (t.file? (join path name)).toOption := by
  have after {file : File} :
      u.file? (join path name) = .ok file ↔
        Sound (join path name) ∧ u.nodeAt? (place.child name) = some (.file file) :=
    (thinned.opens_iff.mpr opens).file?_join_iff plain
  have before {file : File} :
      t.file? (join path name) = .ok file ↔
        Sound (join path name) ∧ t.nodeAt? (place.child name) = some (.file file) :=
    opens.file?_join_iff plain
  cases taken : gone name with
  | true =>
    rw [thinned.taken name taken] at after
    rcases found : u.file? (join path name) with fault | file
    · rfl
    · cases (after.mp found).2
  | false =>
    rw [thinned.child taken] at after
    rcases found : t.file? (join path name) with fault | file
    · rcases also : u.file? (join path name) with other | file
      · rfl
      · rw [before.mpr (after.mp also)] at found
        cases found
    · rw [after.mpr (before.mp found)]
      rfl

theorem filesAmong_eq (thinned : t.Thinned u place gone) (opens : t.Opens path place)
    {names : List String} (plain : ∀ name ∈ names, PlainApplication name) :
    u.filesAmong path names = (t.filesAmong path names).filter fun entry => !gone entry.1 := by
  induction names with
  | nil => rfl
  | cons name rest ih =>
    have others := ih fun name listed => plain name (List.mem_cons_of_mem _ listed)
    have here := thinned.file?_join opens (plain name (List.mem_cons_self ..))
    rw [filesAmong, List.filterMap_cons, here, ← filesAmong, others, filesAmong_cons]
    rcases t.file? (join path name) with fault | file
    · simp [Except.toOption]
    · cases taken : gone name <;> simp [Except.toOption, taken]

/-- The snapshots that are left are those that are not gone, in their order. -/
theorem snapshots_eq (thinned : t.Thinned u place gone) (wf : t.WellFormed)
    (opens : t.Opens path place) :
    u.snapshots path = (t.snapshots path).filter fun entry => !gone entry.1 := by
  have names : u.namesIn place = (t.namesIn place).filter fun name => !gone name := by
    apply namesIn_eq_filter
    intro name
    rw [mem_namesIn, mem_namesIn]
    cases taken : gone name with
    | true => simp [thinned.taken name taken]
    | false => simp [thinned.child taken]
  have plain : ∀ name ∈ t.namesIn place, PlainApplication name :=
    fun name listed => wf.named place name (mem_namesIn.mp listed)
  rw [(thinned.opens_iff.mpr opens).snapshots_eq, opens.snapshots_eq, names, filesAmong_filter,
    filesAmong_filter, filesAmong_filter, thinned.filesAmong_eq opens plain]
  simp [List.filter_filter, Bool.and_comm]

end Thinned

/-- A file is taken out of a directory. -/
theorem thinned_erase (free : t.nodeAt? (place.child name) ≠ some .directory) :
    t.Thinned ⟨t.nodes.erase (place.child name)⟩ place fun other => other == name := by
  have agrees := t.nodeAt?_erase (ne_root_of_nodeAt? free)
  constructor
  · intro other taken
    obtain rfl : other = name := by simpa using taken
    rw [agrees, if_pos rfl]
  · intro there apart
    rw [agrees, if_neg (apart name (by simp))]
  · intro other taken
    obtain rfl : other = name := by simpa using taken
    exact free

/-- What is removed from a directory, if it can be. -/
theorem Opens.thinned_remove (opens : t.Opens path place) (plain : PlainApplication name)
    (sound : Sound (join path name)) (free : t.nodeAt? (place.child name) ≠ some .directory) :
    t.Thinned ((t.remove (join path name)).toOption.getD t) place fun other => other == name := by
  have located := opens.locate_join plain sound
  rcases found : t.nodeAt? (place.child name) with _ | _ | file
  · have failed : t.remove (join path name) = .error .notFound := by
      rw [remove, located]
      simp only [bind, Except.bind, found]
      rfl
    rw [failed]
    refine ⟨fun other taken => ?_, fun _ _ => rfl, fun other taken => ?_⟩
    · obtain rfl : other = name := by simpa using taken
      exact found
    · obtain rfl : other = name := by simpa using taken
      exact free
  · exact absurd found free
  · rw [remove_of_locate located found]
    exact thinned_erase free

end CounterArchive.FileTree
