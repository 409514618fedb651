import CounterArchive.Proofs.Archive.Coverage
import CounterArchive.Proofs.FileTree.Trails

/-! The snapshots of different counters are kept apart: writing one of them, or purging the other ones
of its application, does not change what is read of another. This holds for names that are names of a
directory and of a file. Other names may lead to the file of another counter. -/
namespace CounterArchive

open CounterArchive.Path (join names)

namespace FileTree

variable {t u : FileTree} {path : String} {node : Node}

theorem isPresent_of_error {fault : Fault} (failed : t.node? path = .error fault) :
    t.isPresent path = false := by
  rw [isPresent, failed]
  rfl

/-- The same is at a path in two trees with the same directories, if it is at its place. -/
theorem node?_congr
    (directories : ∀ there, u.nodeAt? there = some .directory ↔ t.nodeAt? there = some .directory)
    (same : ∀ place, t.locate path = .ok place → u.nodeAt? place = t.nodeAt? place) :
    u.node? path = .ok node ↔ t.node? path = .ok node := by
  have keeps : t.KeepsDirectories u := fun there => (directories there).mpr
  have back : u.KeepsDirectories t := fun there => (directories there).mp
  constructor
  · intro found
    obtain ⟨place, located, there⟩ := locate_of_node? found
    have before := back.locate located
    rw [same place before] at there
    exact node?_of_locate before there
  · intro found
    obtain ⟨place, located, there⟩ := locate_of_node? found
    rw [← same place located] at there
    exact node?_of_locate (keeps.locate located) there

theorem GrowsTo.node? (grows : t.GrowsTo u) (found : t.node? path = .ok node) :
    u.node? path = .ok node := by
  obtain ⟨place, located, there⟩ := locate_of_node? found
  exact node?_of_locate (grows.keepsDirectories.locate located) (grows.kept there)

end FileTree

/-- A text that is one name in a path, and leads down. -/
structure SingleName (name : String) : Prop where
  noSlash : '/' ∉ name.toList
  present : name ≠ ""
  notHere : name ≠ "."
  notAbove : name ≠ ".."

/-- The application of a counter is the name of a directory, and it is stored under that of a file. -/
structure Counter.Filed (c : Counter) : Prop where
  single : SingleName c.application
  noSlash : '/' ∉ c.storedAs.toList

namespace Settings

variable {s : Settings} {t u : FileTree} {application stored : String} {place : Location}

def archive (s : Settings) : String :=
  if Path.isAbsolute s.storage then s.storage else join s.temporary s.storage

theorem opens_of_directoryOf (single : SingleName application)
    (opens : t.Opens (s.directoryOf application) place) :
    ∃ archive, t.Opens s.archive archive ∧ place = archive.child application :=
  FileTree.opens_of_locate_join single.noSlash single.present single.notHere single.notAbove
    opens.located

/-- The place of a snapshot is told by the archive and its two names. -/
theorem snapshot_of_locate (single : SingleName application) (noSlash : '/' ∉ stored.toList)
    (located : t.locate (s.snapshotPath application stored) = .ok place) :
    ∃ archive, t.Opens s.archive archive ∧
      t.Opens (s.directoryOf application) (archive.child application) ∧
      place = (archive.child application).child (stored ++ snapshotSuffix) := by
  obtain ⟨above, inside, rfl⟩ := FileTree.opens_of_locate_snapshotPath noSlash located
  obtain ⟨archive, opens, rfl⟩ := opens_of_directoryOf single inside
  exact ⟨archive, opens, inside, rfl⟩

/-- The directories that are made for a snapshot are those on the way to its application. -/
theorem names_directoryOf_snapshotPath (s : Settings) (single : SingleName application)
    (noSlash : '/' ∉ stored.toList) :
    names (Path.directoryOf (s.snapshotPath application stored)) = names s.archive ++ [application] := by
  have way : names (s.directoryOf application) = names s.archive ++ [application] :=
    Path.names_join_name s.archive single.noSlash single.present
  have present : s.directoryOf application ≠ "" := by
    intro empty
    rw [empty] at way
    exact List.cons_ne_nil _ _ (List.append_eq_nil_iff.mp way.symm).2
  rw [snapshotPath, Path.names_directoryOf_join (PlainStored.noSlash_snapshotName noSlash) present, way]

/-- What is found at the path of a snapshot has been there before directories were made for another
one: the new ones lie above it, and do not lead to it. -/
theorem node?_of_grown {node : Node} {other : String} (wf : t.WellFormed)
    (steady : t.Steady s.archive) (grows : t.GrowsTo u)
    (along : t.GrowsAlong u (names s.archive ++ [other])) (single : SingleName application)
    (noSlash : '/' ∉ stored.toList)
    (found : u.node? (s.snapshotPath application stored) = .ok node) :
    t.node? (s.snapshotPath application stored) = .ok node := by
  have keeps := grows.keepsDirectories
  obtain ⟨place, located, there⟩ := FileTree.locate_of_node? found
  obtain ⟨archive, opens, inside, rfl⟩ := snapshot_of_locate single noSlash located
  have old : t.nodeAt? ((archive.child application).child (stored ++ snapshotSuffix)) ≠ none := by
    intro absent
    have deep := steady.depth_le keeps along opens absent (by simp [there])
    change archive.depth + 1 + 1 ≤ archive.depth + 1 at deep
    omega
  have before : t.nodeAt? ((archive.child application).child (stored ++ snapshotSuffix)) =
      some node := by
    rcases grows ((archive.child application).child (stored ++ snapshotSuffix)) with
      same | ⟨absent, -⟩
    · rw [← same, there]
    · exact absurd absent old
  have home := wf.housed _ _ old
  have present : t.nodeAt? (archive.child application) ≠ none := by simp [home]
  have opensBefore := steady.opens wf keeps opens (wf.housed _ _ present)
  have insideBefore : t.Opens (s.directoryOf application) (archive.child application) :=
    ⟨opensBefore.locate_join (wf.named _ _ present) (FileTree.Sound.of_locate inside.located), home⟩
  exact FileTree.node?_of_locate
    (insideBefore.locate_join (wf.named _ _ old) (FileTree.Sound.of_locate located)) before

end Settings

namespace World

variable {w v : World} {c d : Counter}

/-- What is read of a counter is told by what is at the path of its snapshot. -/
theorem readCounter_of_node? (same : w.SameBesidesFiles v)
    (found : ∀ node, v.files.node? (w.settings.snapshotPath d.application d.storedAs) = .ok node ↔
      w.files.node? (w.settings.snapshotPath d.application d.storedAs) = .ok node) :
    v.readCounter d = w.readCounter d := by
  rcases before : w.files.node? (w.settings.snapshotPath d.application d.storedAs) with fault | node
  · have absent := FileTree.isPresent_of_error before
    rcases after : v.files.node? (w.settings.snapshotPath d.application d.storedAs) with other | node
    · simp [readCounter, World.read, same.settings, absent, FileTree.isPresent_of_error after]
    · rw [(found node).mp after] at before
      cases before
  · have after := (found node).mpr before
    simp only [readCounter, World.read, readSnapshot, FileTree.isPresent, FileTree.file?,
      same.host, same.settings, same.disabled, same.clock, before, after]

/-- A write leaves what is read of all other counters as it was. -/
theorem readCounter_write_of_ne (wf : w.files.WellFormed)
    (steady : w.files.Steady w.settings.archive) (filed : c.Filed) (otherFiled : d.Filed)
    (different : (c.application, c.storedAs) ≠ (d.application, d.storedAs)) :
    (w.write c).1.readCounter d = w.readCounter d := by
  apply readCounter_of_node? (w.untouched_write c).toSameBesidesFiles
  intro node
  have grows := w.files.growsTo_ensureDirectories w.host.directories (w.snapshotDirectory c)
  have along := w.files.growsAlong_ensureDirectories w.host.directories (w.snapshotDirectory c)
  have changed := w.files_write_cases c
  have way : names (w.snapshotDirectory c) = names w.settings.archive ++ [c.application] :=
    w.settings.names_directoryOf_snapshotPath filed.single filed.noSlash
  rw [way] at along
  generalize (w.files.ensureDirectories w.host.directories (w.snapshotDirectory c)).1 =
    between at *
  have made : between.node? (w.settings.snapshotPath d.application d.storedAs) = .ok node ↔
      w.files.node? (w.settings.snapshotPath d.application d.storedAs) = .ok node :=
    ⟨Settings.node?_of_grown wf steady grows along otherFiled.single otherFiled.noSlash, grows.node?⟩
  rcases changed with same | same | ⟨file, written⟩
  · rw [same]
  · rw [same, made]
  · refine Iff.trans ?_ made
    obtain ⟨place, located, free, files⟩ := FileTree.write_ok written
    have agrees := between.nodeAt?_insert (.file file) (FileTree.ne_root_of_nodeAt? free)
    rw [← files] at agrees
    apply FileTree.node?_congr
    · intro there
      rw [agrees]
      split
      · rename_i here
        simp [here, free]
      · rfl
    · -- Both places are told by their names, which are not the same.
      intro other otherLocated
      rw [agrees, if_neg]
      rintro rfl
      obtain ⟨archive, opens, -, here⟩ :=
        Settings.snapshot_of_locate filed.single filed.noSlash located
      obtain ⟨also, alsoOpens, -, there⟩ :=
        Settings.snapshot_of_locate otherFiled.single otherFiled.noSlash otherLocated
      obtain rfl := Except.ok.inj (opens.located.symm.trans alsoOpens.located)
      obtain ⟨above, stored⟩ := Location.child_inj.mp (here.symm.trans there)
      obtain ⟨-, application⟩ := Location.child_inj.mp above
      exact different (Prod.ext application (String.append_left_inj _ |>.mp stored))

/-- A purge leaves what is read of the counters of other applications as it was. -/
theorem readCounter_purge_of_ne (wf : w.files.WellFormed) {application : String}
    (single : SingleName application) (filed : d.Filed) (different : application ≠ d.application)
    (disturbance : Disturbance) (now : Binary64) :
    (w.purge disturbance application now).1.readCounter d = w.readCounter d := by
  apply readCounter_of_node? (w.untouched_purge disturbance application now).toSameBesidesFiles
  intro node
  rcases purged_purge wf disturbance application now with same | ⟨cutoff, purged⟩
  · rw [same]
  · obtain ⟨place, gone, thinned, only⟩ := purged.thinned
    apply FileTree.node?_congr thinned.directory_iff
    intro other located
    apply thinned.kept
    rintro name taken rfl
    obtain ⟨opens, -⟩ := only name taken
    obtain ⟨archive, archiveOpens, rfl⟩ := Settings.opens_of_directoryOf single opens
    obtain ⟨also, alsoOpens, -, here⟩ :=
      Settings.snapshot_of_locate filed.single filed.noSlash located
    obtain ⟨above, -⟩ := Location.child_inj.mp here
    exact different (Location.child_inj.mp above).2

/-- The snapshots of counters with different names are isolated from one another. -/
theorem readCounter_isolated (wf : w.files.WellFormed) (filed : c.Filed) (otherFiled : d.Filed) :
    (w.files.Steady w.settings.archive →
      (c.application, c.storedAs) ≠ (d.application, d.storedAs) →
        (w.write c).1.readCounter d = w.readCounter d) ∧
    (c.application ≠ d.application → ∀ (disturbance : Disturbance) (now : Binary64),
      (w.purge disturbance c.application now).1.readCounter d = w.readCounter d) :=
  ⟨fun steady => readCounter_write_of_ne wf steady filed otherFiled,
    readCounter_purge_of_ne wf filed.single otherFiled⟩

end World

def Counter.billed : Counter := { Counter.visited with application := "billing" }

theorem Counter.filed_visited : Counter.visited.Filed :=
  ⟨⟨by decide, by decide, by decide, by decide⟩, by decide⟩

theorem Counter.filed_billed : Counter.billed.Filed :=
  ⟨⟨by decide, by decide, by decide, by decide⟩, by decide⟩

/-- Once a counter is stored, it is read as before when one of another application is stored, and when
that application is purged. -/
theorem World.readCounter_isolated_visited : ∃ v,
    World.initial.write .visited = (v, .ok (some (Snapshot.content .visited).length)) ∧
      (v.write .billed).1.readCounter .visited = v.readCounter .visited ∧
      (v.purge {} "billing" (.finite 100000000)).1.readCounter .visited = v.readCounter .visited := by
  obtain ⟨v, wrote, same, -⟩ :=
    write_stocked bare_initial.stocked plain_visited rfl (by decide) (.inl (by decide))
  have wf := wellFormed_write wellFormed_initial .visited
  rw [wrote] at wf
  have steady : v.files.Steady v.settings.archive := by
    rw [same.settings]
    exact .inr (by decide)
  have isolated := readCounter_isolated wf Counter.filed_billed Counter.filed_visited
  exact ⟨v, wrote, isolated.1 steady (by decide), isolated.2 (by decide) {} _⟩

/-- A counter that is stored under a name which leads to the file of another one. -/
def Counter.detour : Counter := { Counter.visited with storageName := some "./http" }

theorem FileTree.locate_detour :
    regional.locate (Settings.inTmp.snapshotPath "shop" "http") =
        .ok (((tmp.child "countervault").child "shop").child "http.ser.gz") ∧
      regional.locate (Settings.inTmp.snapshotPath "shop" "./http") =
        .ok (((tmp.child "countervault").child "shop").child "http.ser.gz") := by
  decide +kernel

theorem World.write_detour :
    ∃ v, regional.write .detour = (v, .ok (some (Snapshot.content .detour).length)) := by
  obtain ⟨count, made⟩ := FileTree.makeDirectories_of_parent
    (show FileTree.regional.isPresent (Path.directoryOf "/tmp/countervault/shop/.") = true by
      decide +kernel)
  have ensured : FileTree.regional.ensureDirectories Host.lenient.directories
      "/tmp/countervault/shop/." = (.regional, none) := by
    rw [FileTree.ensureDirectories, count, if_neg (by decide), made]
    decide +kernel
  have written := FileTree.write_of_locate (regional.snapshotFile .detour) FileTree.locate_detour.2
    (by decide)
  exact ⟨_, write_of_ensured rfl (by decide) (by decide) ensured written⟩

/-- Not all counters with different names have files of their own. -/
theorem World.not_readCounter_isolated :
    ¬ ∀ (w : World) (c d : Counter), w.files.WellFormed →
      c.application ≠ "" → c.storedAs ≠ "" → d.application ≠ "" → d.storedAs ≠ "" →
      (c.application, c.storedAs) ≠ (d.application, d.storedAs) →
      (w.write c).1.readCounter d = w.readCounter d := by
  intro claim
  have same := claim regional .detour .visited FileTree.wellFormed_regional (by decide) (by decide)
    (by decide) (by decide) (by decide)
  have before : regional.readCounter .visited = .ok none :=
    readCounter_of_absent FileTree.locate_detour.1 (by decide)
  obtain ⟨v, wrote⟩ := write_detour
  have untouched := regional.untouched_write .detour
  have keeps := regional.keepsDirectories_write .detour
  have found := (file?_of_write wrote).1
  rw [before, wrote] at same
  rw [wrote] at untouched keeps
  obtain ⟨place, located, node⟩ := FileTree.locate_of_file? found
  have here := (keeps.locate FileTree.locate_detour.2).symm.trans located
  rw [← Except.ok.inj here] at node
  have settings : v.settings = .inTmp := untouched.settings
  have read := FileTree.file?_of_locate (keeps.locate FileTree.locate_detour.1) node
  rw [← settings] at read
  exact readCounter_ne_none (c := .visited) untouched.disabled read same

end CounterArchive
