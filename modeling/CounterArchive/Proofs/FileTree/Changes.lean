import CounterArchive.FileTree.Basic
import CounterArchive.Proofs.Table

/-! What a change of a tree does to what is found in it. Paths lead through directories alone, so
that they lead to the same places as long as directories stay what they are. -/
namespace CounterArchive.FileTree

/-- If two steps go well together, each of them does. -/
theorem bind_ok {α β : Type} {x : Except Fault α} {f : α → Except Fault β} {r : β}
    (ok : (x >>= f) = .ok r) : ∃ a, x = .ok a ∧ f a = .ok r := by
  cases x with
  | error fault => cases ok
  | ok a => exact ⟨a, rfl, ok⟩

/-- If two steps fail, one of them does. -/
theorem bind_error {α β : Type} {x : Except Fault α} {f : α → Except Fault β} {fault : Fault}
    (failed : (x >>= f) = .error fault) :
    x = .error fault ∨ ∃ a, x = .ok a ∧ f a = .error fault := by
  cases x with
  | error other =>
    cases failed
    exact .inl rfl
  | ok a => exact .inr ⟨a, rfl, failed⟩

variable {t u : FileTree} {path : String} {place : Location}

theorem nodeAt?_root (t : FileTree) : t.nodeAt? .root = some .directory := if_pos rfl

theorem ne_root_of_nodeAt? (other : t.nodeAt? place ≠ some .directory) : place ≠ .root := by
  rintro rfl
  exact other t.nodeAt?_root

theorem nodeAt?_insert (t : FileTree) (node : Node) (notRoot : place ≠ .root) (other : Location) :
    (⟨t.nodes.insert place node⟩ : FileTree).nodeAt? other =
      if other = place then some node else t.nodeAt? other := by
  unfold nodeAt?
  by_cases root : other = .root
  · have different : other ≠ place := fun same => notRoot (same.symm.trans root)
    rw [if_pos root, if_pos root, if_neg different]
  · rw [if_neg root, if_neg root]
    exact t.nodes.get?_insert place other node

theorem nodeAt?_erase (t : FileTree) (notRoot : place ≠ .root) (other : Location) :
    (⟨t.nodes.erase place⟩ : FileTree).nodeAt? other =
      if other = place then none else t.nodeAt? other := by
  unfold nodeAt?
  by_cases root : other = .root
  · have different : other ≠ place := fun same => notRoot (same.symm.trans root)
    rw [if_pos root, if_pos root, if_neg different]
  · rw [if_neg root, if_neg root]
    exact t.nodes.get?_erase place other

def KeepsDirectories (t u : FileTree) : Prop :=
  ∀ place, t.nodeAt? place = some .directory → u.nodeAt? place = some .directory

theorem KeepsDirectories.insert (node : Node) (other : t.nodeAt? place ≠ some .directory) :
    t.KeepsDirectories ⟨t.nodes.insert place node⟩ := by
  intro there directory
  have different : there ≠ place := by
    rintro rfl
    exact other directory
  rw [nodeAt?_insert t node (ne_root_of_nodeAt? other), if_neg different]
  exact directory

theorem directory_of_enter {there : Location} {name : String}
    (entered : t.enter place name = .ok there) : t.nodeAt? place = some .directory := by
  unfold enter at entered
  split at entered
  · cases entered
  · cases entered
  · assumption

/-- Where a name leads from a directory is the same in all trees. -/
theorem enter_of_directory {there : Location} {name : String}
    (entered : t.enter place name = .ok there) (directory : u.nodeAt? place = some .directory) :
    u.enter place name = .ok there := by
  rw [enter, directory_of_enter entered] at entered
  rw [enter, directory]
  exact entered

/-- A name leads to the directory itself, or to the one above, or one step down. -/
theorem enter_cases {there : Location} {name : String} (entered : t.enter place name = .ok there) :
    name = "." ∧ there = place ∨ name = ".." ∧ there = place.parent ∨
      name ≠ "." ∧ name ≠ ".." ∧ Utf8.size name.toList ≤ nameLimit ∧ there = place.child name := by
  rw [enter, directory_of_enter entered] at entered
  by_cases here : name = "."
  · simp only [here, if_true] at entered
    exact .inl ⟨here, (Except.ok.inj entered).symm⟩
  · by_cases above : name = ".."
    · simp only [above, if_true] at entered
      exact .inr (.inl ⟨above, (Except.ok.inj entered).symm⟩)
    · simp only [here, above, if_false] at entered
      split at entered
      · cases entered
      · rename_i short
        exact .inr (.inr ⟨here, above, Nat.le_of_not_lt short, (Except.ok.inj entered).symm⟩)

theorem KeepsDirectories.enter (keeps : t.KeepsDirectories u) {there : Location} {name : String}
    (entered : t.enter place name = .ok there) : u.enter place name = .ok there :=
  enter_of_directory entered (keeps place (directory_of_enter entered))

/-- One name more leads one step farther. -/
theorem walk_append (t : FileTree) (front : List String) (name : String) (place : Location) :
    (front ++ [name]).foldlM t.enter place =
      (front.foldlM t.enter place >>= fun above => t.enter above name) := by
  rw [List.foldlM_append]
  cases front.foldlM t.enter place with
  | error fault => rfl
  | ok above =>
    change [name].foldlM t.enter above = t.enter above name
    rw [List.foldlM_cons]
    cases t.enter above name <;> rfl

theorem KeepsDirectories.walk (keeps : t.KeepsDirectories u) {names : List String}
    {there : Location} (walked : names.foldlM t.enter place = .ok there) :
    names.foldlM u.enter place = .ok there := by
  induction names generalizing place with
  | nil => exact walked
  | cons name names ih =>
    rw [List.foldlM_cons] at walked ⊢
    obtain ⟨next, entered, rest⟩ := bind_ok walked
    rw [keeps.enter entered]
    exact ih rest

theorem KeepsDirectories.locate (keeps : t.KeepsDirectories u)
    (located : t.locate path = .ok place) : u.locate path = .ok place := by
  unfold FileTree.locate at located ⊢
  split at located
  · cases located
  · split at located
    · cases located
    · rename_i noZero short
      rw [if_neg noZero, if_neg short]
      exact keeps.walk located

/-! Paths that lead nowhere -/

theorem isInFiles_of_enter {name : String} {fault : Fault}
    (failed : t.enter place name = .error fault) : fault.isInFiles = true := by
  unfold enter at failed
  split at failed
  · cases failed
    rfl
  · cases failed
    rfl
  · split at failed
    · cases failed
    · split at failed
      · cases failed
      · split at failed
        · cases failed
          rfl
        · cases failed

/-- A path without zero characters is refused for what is found in the files alone. -/
theorem isInFiles_of_locate {fault : Fault} (noZero : '\x00' ∉ path.toList)
    (failed : t.locate path = .error fault) : fault.isInFiles = true := by
  have walk : ∀ (names : List String) (place : Location),
      names.foldlM t.enter place = .error fault → fault.isInFiles = true := by
    intro names
    induction names with
    | nil => exact fun _ walked => nomatch walked
    | cons name rest ih =>
      intro place walked
      rw [List.foldlM_cons] at walked
      rcases bind_error walked with stopped | ⟨next, -, later⟩
      · exact isInFiles_of_enter stopped
      · exact ih next later
  rw [locate, if_neg (by simpa using noZero)] at failed
  split at failed
  · cases failed
    rfl
  · exact walk _ _ failed

theorem node?_of_locate {node : Node} (located : t.locate path = .ok place)
    (found : t.nodeAt? place = some node) : t.node? path = .ok node := by
  rw [node?, located]
  simp only [bind, Except.bind, found]
  rfl

theorem file?_of_locate {file : File} (located : t.locate path = .ok place)
    (found : t.nodeAt? place = some (.file file)) : t.file? path = .ok file := by
  rw [file?, node?_of_locate located found]
  rfl

theorem file?_of_absent (located : t.locate path = .ok place) (absent : t.nodeAt? place = none) :
    t.file? path = .error .notFound := by
  rw [file?, node?, located]
  simp only [bind, Except.bind, absent]
  rfl

theorem file?_of_error {fault : Fault} (failed : t.locate path = .error fault) :
    t.file? path = .error fault := by
  rw [file?, node?, failed]
  rfl

theorem locate_of_node? {node : Node} (found : t.node? path = .ok node) :
    ∃ place, t.locate path = .ok place ∧ t.nodeAt? place = some node := by
  obtain ⟨place, located, there⟩ := bind_ok found
  split at there
  · cases there
  · rename_i other
    cases there
    exact ⟨place, located, other⟩

theorem node?_of_file? {file : File} (found : t.file? path = .ok file) :
    t.node? path = .ok (.file file) := by
  obtain ⟨node, there, same⟩ := bind_ok found
  cases node <;> cases same
  exact there

theorem locate_of_file? {file : File} (found : t.file? path = .ok file) :
    ∃ place, t.locate path = .ok place ∧ t.nodeAt? place = some (.file file) :=
  locate_of_node? (node?_of_file? found)

theorem isPresent_of_file? {file : File} (found : t.file? path = .ok file) :
    t.isPresent path = true := by
  rw [isPresent, node?_of_file? found]
  rfl

/-- Nothing is found where there is no file. -/
theorem isPresent_of_notFound (absent : t.file? path = .error .notFound) :
    t.isPresent path = false := by
  unfold isPresent
  cases there : t.node? path with
  | error fault => rfl
  | ok node =>
    rw [file?, there] at absent
    cases node <;> cases absent

/-! Writing -/

theorem write_of_locate (file : File) (located : t.locate path = .ok place)
    (other : t.nodeAt? place ≠ some .directory) :
    t.write path file = .ok ⟨t.nodes.insert place (.file file)⟩ := by
  rw [write, located]
  cases found : t.nodeAt? place with
  | none => simp only [bind, Except.bind, found]; rfl
  | some node =>
    cases node with
    | directory => exact absurd found other
    | file old => simp only [bind, Except.bind, found]; rfl

theorem write_ok {file : File} (written : t.write path file = .ok u) :
    ∃ place, t.locate path = .ok place ∧ t.nodeAt? place ≠ some .directory ∧
      u = ⟨t.nodes.insert place (.file file)⟩ := by
  obtain ⟨place, located, put⟩ := bind_ok written
  split at put
  · cases put
  · rename_i other
    cases put
    exact ⟨place, located, other, rfl⟩

theorem keepsDirectories_of_write {file : File} (written : t.write path file = .ok u) :
    t.KeepsDirectories u := by
  obtain ⟨place, -, free, rfl⟩ := write_ok written
  exact .insert _ free

/-- What has been written is there. -/
theorem file?_write {file : File} (written : t.write path file = .ok u) :
    u.file? path = .ok file := by
  obtain ⟨place, located, other, rfl⟩ := write_ok written
  have keeps := KeepsDirectories.insert (.file file) other
  refine file?_of_locate (keeps.locate located) ?_
  rw [nodeAt?_insert t _ (ne_root_of_nodeAt? other), if_pos rfl]

/-- A file stays when another one is written elsewhere. -/
theorem file?_write_of_ne {other : String} {file old : File} (written : t.write other file = .ok u)
    (apart : ∀ place, t.locate path = .ok place → t.locate other ≠ .ok place)
    (found : t.file? path = .ok old) : u.file? path = .ok old := by
  obtain ⟨place, located, node⟩ := locate_of_file? found
  obtain ⟨there, otherLocated, free, rfl⟩ := write_ok written
  have elsewhere : place ≠ there := by
    rintro rfl
    exact apart place located otherLocated
  refine file?_of_locate ((KeepsDirectories.insert _ free).locate located) ?_
  rw [nodeAt?_insert t _ (ne_root_of_nodeAt? free), if_neg elsewhere, node]

/-! Taking away -/

theorem remove_of_locate {file : File} (located : t.locate path = .ok place)
    (found : t.nodeAt? place = some (.file file)) :
    t.remove path = .ok ⟨t.nodes.erase place⟩ := by
  rw [remove, located]
  simp only [bind, Except.bind, found]
  rfl

/-- What can be removed has been found before. -/
theorem file?_of_remove (removed : t.remove path = .ok u) : ∃ file, t.file? path = .ok file := by
  obtain ⟨place, located, taken⟩ := bind_ok removed
  split at taken
  · cases taken
  · cases taken
  · rename_i file found
    exact ⟨file, file?_of_locate located found⟩

/-! Making directories -/

theorem isPresent_of_directory (located : t.locate path = .ok place)
    (directory : t.nodeAt? place = some .directory) : t.isPresent path = true := by
  rw [isPresent, node?_of_locate located directory]
  rfl

theorem isPresent_of_absent (located : t.locate path = .ok place)
    (absent : t.nodeAt? place = none) : t.isPresent path = false :=
  isPresent_of_notFound (file?_of_absent located absent)

theorem ensureDirectory_of_absent (located : t.locate path = .ok place)
    (absent : t.nodeAt? place = none) :
    t.ensureDirectory path = (⟨t.nodes.insert place .directory⟩, none) := by
  have made : t.makeDirectory path = .ok ⟨t.nodes.insert place .directory⟩ := by
    rw [makeDirectory, located]
    simp only [bind, Except.bind, absent]
    rfl
  rw [ensureDirectory, made]

theorem ensureDirectory_of_directory (located : t.locate path = .ok place)
    (directory : t.nodeAt? place = some .directory) : t.ensureDirectory path = (t, none) := by
  have made : t.makeDirectory path = .error .alreadyExists := by
    rw [makeDirectory, located]
    simp only [bind, Except.bind, directory]
    rfl
  have there : t.isDirectory path = true := by
    rw [isDirectory, node?_of_locate located directory]
    rfl
  rw [ensureDirectory, made]
  simp only [there, if_true]

/-- A directory is made where nothing is, or all stays as it was. -/
theorem ensureDirectory_cases (t : FileTree) (path : String) :
    (t.ensureDirectory path).1 = t ∨ ∃ place, t.locate path = .ok place ∧
      t.nodeAt? place = none ∧ (t.ensureDirectory path).1 = ⟨t.nodes.insert place .directory⟩ := by
  cases located : t.locate path with
  | error fault =>
    left
    rw [ensureDirectory, makeDirectory, located]
    rfl
  | ok place =>
    cases found : t.nodeAt? place with
    | none => exact .inr ⟨place, rfl, found, by rw [ensureDirectory_of_absent located found]⟩
    | some node =>
      left
      rw [ensureDirectory, makeDirectory, located]
      simp only [bind, Except.bind, found]
      rfl

/-- What holds on whenever a directory is made holds when all are made that lead to a path. -/
theorem makeDirectories_keeps {holds : FileTree → Prop}
    (step : ∀ u path, holds u → holds (u.ensureDirectory path).1) (begins : holds t)
    (path : String) : holds (t.makeDirectories path).1 := by
  fun_induction makeDirectories t path with
  | case1 path parent missing u failed made fault ih =>
    rw [made] at ih
    exact ih
  | case2 path parent missing u failed made fine here ih =>
    rw [made] at ih
    exact ih
  | case3 path parent missing u failed made fine named ih =>
    rw [made] at ih
    exact step u path ih
  | case4 path => exact step t path begins

theorem ensureDirectories_keeps {holds : FileTree → Prop}
    (step : ∀ u path, holds u → holds (u.ensureDirectory path).1) (begins : holds t)
    (most : Nat) (path : String) : holds (t.ensureDirectories most path).1 := by
  unfold ensureDirectories
  split
  · exact begins
  · exact makeDirectories_keeps step begins path

/-- Where the directory above is there, only the last one may have to be made. -/
theorem makeDirectories_of_parent (present : t.isPresent (Path.directoryOf path) = true) :
    t.countMissing path = 1 ∧ t.makeDirectories path = t.ensureDirectory path := by
  have nothing : ¬ (Path.directoryOf path ≠ "" ∧ (Path.directoryOf path).length < path.length ∧
      (!t.isPresent (Path.directoryOf path)) = true) := by
    rw [present]
    simp
  constructor
  · rw [countMissing]
    exact dif_neg nothing
  · rw [makeDirectories]
    exact dif_neg nothing

/-- Where it is not, it is made first. -/
theorem makeDirectories_of_absent (some : Path.directoryOf path ≠ "")
    (shorter : (Path.directoryOf path).length < path.length)
    (absent : t.isPresent (Path.directoryOf path) = false) (named : Path.lastName path ≠ ".")
    (above : t.makeDirectories (Path.directoryOf path) = (u, none)) :
    t.countMissing path = t.countMissing (Path.directoryOf path) + 1 ∧
      t.makeDirectories path = u.ensureDirectory path := by
  have missing : Path.directoryOf path ≠ "" ∧ (Path.directoryOf path).length < path.length ∧
      (!t.isPresent (Path.directoryOf path)) = true := by
    rw [absent]
    exact ⟨some, shorter, rfl⟩
  constructor
  · rw [countMissing]
    exact dif_pos missing
  · rw [makeDirectories, dif_pos missing, above]
    simp [named]

/-! Listing -/

theorem mem_namesIn {name : String} :
    name ∈ t.namesIn place ↔ t.nodeAt? (place.child name) ≠ none := by
  have notRoot : place.child name ≠ .root := by
    intro same
    cases congrArg Location.depth same
  rw [nodeAt?, if_neg notRoot, t.nodes.get?_ne_none_iff, namesIn, List.mem_mergeSort,
    List.mem_filterMap]
  constructor
  · rintro ⟨location, listed, named⟩
    split at named
    · rename_i parent
      have child : location = place.child name := by
        apply Location.ext
        have tail : location.names.tail = place.names := congrArg Location.names parent
        change location.names = name :: place.names
        obtain ⟨rest, split⟩ := List.head?_eq_some_iff.mp named
        rw [← tail, split, List.tail_cons]
      exact child ▸ listed
    · cases named
  · intro listed
    have parent : (place.child name).parent = place := Location.ext rfl
    exact ⟨place.child name, listed, by rw [if_pos parent]; rfl⟩

theorem list_of_directory (located : t.locate path = .ok place)
    (directory : t.nodeAt? place = some .directory) : t.list path = .ok (t.namesIn place) := by
  rw [list, node?_of_locate located directory]
  simp only [bind, Except.bind, located]
  rfl

theorem list_of_absent (located : t.locate path = .ok place) (absent : t.nodeAt? place = none) :
    t.list path = .error .notFound := by
  rw [list, node?, located]
  simp only [bind, Except.bind, absent]
  rfl

/-- A directory whose path has no zero characters is listed, or not for what is found in the files. -/
theorem isInFiles_of_list {fault : Fault} (noZero : '\x00' ∉ path.toList)
    (failed : t.list path = .error fault) : fault.isInFiles = true := by
  rcases bind_error failed with nothing | ⟨node, -, refused⟩
  · rcases bind_error nothing with nowhere | ⟨place, -, absent⟩
    · exact isInFiles_of_locate noZero nowhere
    · split at absent <;> cases absent
      rfl
  · cases node with
    | directory =>
      rcases bind_error refused with nowhere | ⟨place, -, listed⟩
      · exact isInFiles_of_locate noZero nowhere
      · cases listed
    | file file =>
      cases refused
      rfl

theorem list_of_error {fault : Fault} (failed : t.locate path = .error fault) :
    t.list path = .error fault := by
  rw [list, node?, failed]
  rfl

end CounterArchive.FileTree
