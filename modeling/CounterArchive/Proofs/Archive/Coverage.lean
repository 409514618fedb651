import CounterArchive.Proofs.Archive.NormalForm
import CounterArchive.Proofs.Archive.ReadBack
import CounterArchive.Proofs.Archive.Trees

/-! Which snapshots a purge looks at: those that lie in the directory of the application itself. There
lie all that are written under names without slashes. Under other names a snapshot may lie deeper than
a purge looks, and then it stays, whatever its age. -/
namespace CounterArchive

open CounterArchive.Path

namespace FileTree

variable {t u : FileTree} {path : String} {place : Location}

/-- A path leads to the same file in two trees that have the same at its place. -/
theorem file?_congr (before : t.locate path = .ok place) (after : u.locate path = .ok place)
    (same : u.nodeAt? place = t.nodeAt? place) : u.file? path = t.file? path := by
  rw [file?, file?, node?, node?, before, after]
  simp only [bind, Except.bind, same]

end FileTree

namespace World

variable {w v : World} {c : Counter} {place : Location} {name : String} {file : File} {size : Nat}
  {d : Disturbance} {now : Binary64} {millis days : Int}

/-- The snapshot of a counter lies in the directory of the application itself, as a purge finds it. -/
structure Shelved (w : World) (c : Counter) (place : Location) (name : String) : Prop where
  opens : w.files.Opens (w.settings.directoryOf c.application) place
  located : w.files.locate (w.settings.snapshotPath c.application c.storedAs) =
    .ok (place.child name)
  isSnapshot : isSnapshotName name = true
  sound : Sound (join (w.settings.directoryOf c.application) name)

/-- Under a name without slashes a snapshot lies in the directory of its application. -/
theorem shelved_of_file? (noSlash : '/' ∉ c.storedAs.toList)
    (found : w.files.file? (w.settings.snapshotPath c.application c.storedAs) = .ok file) :
    ∃ place, w.Shelved c place (c.storedAs ++ Settings.snapshotSuffix) := by
  obtain ⟨there, located, -⟩ := FileTree.locate_of_file? found
  obtain ⟨place, opens, rfl⟩ := FileTree.opens_of_locate_snapshotPath noSlash located
  exact ⟨place, opens, located, Stocked.isSnapshotName_append c.storedAs,
    FileTree.Sound.of_locate located⟩

/-- What a purge makes of a snapshot that it looks at: either it is deleted, so that nothing is read any
more; or it is still there, and among those whose size is told. -/
structure Considered (d : Disturbance) (cutoff : Int) (c : Counter) (name : String) (file : File)
    (x : World) (told : Nat) : Prop where
  told : told = sizeOf (x.files.snapshots (x.settings.directoryOf c.application))
  deleted : d.spares cutoff (name, file) = false → x.readCounter c = .ok none
  kept : d.spares cutoff (name, file) = true →
    x.files.file? (x.settings.snapshotPath c.application c.storedAs) = .ok file ∧
      (name, file) ∈ x.files.snapshots (x.settings.directoryOf c.application)

/-- Nothing is read where nothing is. -/
theorem readCounter_of_absent
    (located : w.files.locate (w.settings.snapshotPath c.application c.storedAs) = .ok place)
    (absent : w.files.nodeAt? place = none) : w.readCounter c = .ok none := by
  simp [readCounter, World.read, FileTree.isPresent_of_absent located absent]

/-- A purge looks at each snapshot in the directory. -/
theorem purge_considers (wf : w.files.WellFormed) (shelved : w.Shelved c place name)
    (node : w.files.nodeAt? (place.child name) = some (.file file)) (d : Disturbance)
    (finite : Retention.millis now = .ok millis)
    (valid : Retention.days w.settings.retention = .ok days) :
    ∃ x told, w.purge d c.application now = (x, .ok told) ∧
      Considered d (Retention.cutoff millis days) c name file x told := by
  obtain ⟨opens, located, isSnapshot, sound⟩ := shelved
  have snapshot : w.files.SnapshotAt (w.settings.directoryOf c.application) (place.child name) name
      file := ⟨⟨place, opens, rfl⟩, isSnapshot, sound.short, node⟩
  rcases purgeAt_cases wf d c.application millis days with
    ⟨-, closed⟩ | ⟨files, events, whole, purged⟩
  · exact absurd opens (closed place)
  have lost := purged.lost wf
  have locatedAfter := lost.keepsDirectories.locate located
  have outcome : w.purge d c.application now = (({ w with files } : World).record events,
      .ok (sizeOf (files.snapshots (w.settings.directoryOf c.application)))) := by
    simp only [purge, finite, valid]
    exact whole
  refine ⟨_, _, outcome, rfl, ?_, ?_⟩
  · intro deleted
    exact readCounter_of_absent (w := ({ w with files } : World).record events) locatedAfter
      (lost.taken _ _ _ snapshot deleted)
  · intro kept
    have still := lost.snapshotAt_iff.mpr ⟨snapshot, by simp [kept]⟩
    exact ⟨FileTree.file?_of_locate locatedAfter still.node,
      (purged.wellFormed wf).mem_snapshots_iff_at.mpr ⟨_, still⟩⟩

/-- A snapshot that lies elsewhere is left as it is. -/
theorem purge_passes (wf : w.files.WellFormed) (elsewhere : ∀ place name, ¬ w.Shelved c place name)
    (found : w.files.file? (w.settings.snapshotPath c.application c.storedAs) = .ok file)
    (d : Disturbance) (now : Binary64) :
    (w.purge d c.application now).1.files.file?
      (w.settings.snapshotPath c.application c.storedAs) = .ok file := by
  rcases purged_purge wf d c.application now with same | ⟨cutoff, purged⟩
  · rw [same, found]
  · obtain ⟨place, gone, thinned, only⟩ := purged.thinned
    obtain ⟨there, located, -⟩ := FileTree.locate_of_file? found
    rw [FileTree.file?_congr located (thinned.keepsDirectories.locate located), found]
    apply thinned.kept
    rintro name taken rfl
    obtain ⟨opens, other, listed, -⟩ := only name taken
    obtain ⟨isSnapshot, sound, -⟩ := (wf.mem_snapshots_iff opens).mp listed
    exact elsewhere place name ⟨opens, located, isSnapshot, sound⟩

/-- A counter is read, or fails to be, where there is a file. -/
theorem readCounter_ne_none (enabled : w.disabled = false)
    (found : w.files.file? (w.settings.snapshotPath c.application c.storedAs) = .ok file) :
    w.readCounter c ≠ .ok none := by
  intro read
  rw [readCounter, read_of_file enabled found] at read
  split at read <;> cases read

/-- A file that is there gets the time of change that it is given. -/
theorem file?_touch {path : String} (found : w.files.file? path = .ok file) (modified : Int) :
    (w.touch path modified).files.file? path = .ok { file with modified } := by
  obtain ⟨files, written, placed⟩ := FileTree.exists_write_of_file? found { file with modified }
  simp only [touch, found, written]
  exact placed

/-- What becomes of a snapshot that has been written and has got any time of change. A purge of the
application either looks at it, or leaves it as it is; and it looks at all that are stored under names
without slashes. -/
theorem purge_of_written (wf : w.files.WellFormed) (wrote : w.write c = (v, .ok (some size)))
    (modified : Int) (d : Disturbance) (finite : Retention.millis now = .ok millis)
    (valid : Retention.days w.settings.retention = .ok days) :
    ∃ x file, v.touch (w.settings.snapshotPath c.application c.storedAs) modified = x ∧
      x.files.file? (w.settings.snapshotPath c.application c.storedAs) = .ok file ∧
      file.modified = modified ∧
      ('/' ∉ c.storedAs.toList → ∃ place, x.Shelved c place (c.storedAs ++ Settings.snapshotSuffix)) ∧
      (∀ place name, x.Shelved c place name → ∃ y told, x.purge d c.application now = (y, .ok told) ∧
        Considered d (Retention.cutoff millis days) c name file y told) ∧
      ((∀ place name, ¬ x.Shelved c place name) → (x.purge d c.application now).1.files.file?
        (w.settings.snapshotPath c.application c.storedAs) = .ok file) := by
  have placed := (file?_of_write wrote).1
  have settings : v.settings = w.settings := by
    have untouched := untouched_write w c
    rw [wrote] at untouched
    exact untouched.settings
  have wfAfter : v.files.WellFormed := by
    have after := wellFormed_write wf c
    rwa [wrote] at after
  have touched := untouched_touch v (w.settings.snapshotPath c.application c.storedAs) modified
  have found := file?_touch placed modified
  have wfTouched := wellFormed_touch wfAfter (w.settings.snapshotPath c.application c.storedAs) modified
  generalize v.touch (w.settings.snapshotPath c.application c.storedAs) modified = x at *
  have same : x.settings = w.settings := touched.settings.trans settings
  rw [← same] at found valid ⊢
  refine ⟨x, _, rfl, found, rfl, fun noSlash => shelved_of_file? noSlash found, ?_, ?_⟩
  · intro place name shelved
    obtain ⟨there, located, node⟩ := FileTree.locate_of_file? found
    rw [shelved.located] at located
    cases located
    exact purge_considers wfTouched shelved node d finite valid
  · exact fun elsewhere => purge_passes wfTouched elsewhere found d now

/-- A snapshot that has just been written is deleted when it is made older than it is allowed to be. -/
theorem purge_of_written_visited : ∃ v x y told,
    World.initial.write .visited = (v, .ok (some (Snapshot.content .visited).length)) ∧
      v.touch (World.initial.settings.snapshotPath "shop" "http") 0 = x ∧
      x.purge {} "shop" (.finite 100000000) = (y, .ok told) ∧ y.readCounter .visited = .ok none := by
  obtain ⟨v, wrote, -, -⟩ :=
    write_stocked bare_initial.stocked plain_visited rfl (by decide) (.inl (by decide))
  have finite : Retention.millis (.finite 100000000) = .ok 100000000000 := by decide +kernel
  obtain ⟨x, file, touched, -, old, lies, considered, -⟩ :=
    purge_of_written wellFormed_initial wrote 0 {} finite rfl
  obtain ⟨place, shelved⟩ := lies plain_http.noSlash
  obtain ⟨y, told, purged, considered⟩ := considered place _ shelved
  refine ⟨v, x, y, told, wrote, touched, purged, considered.deleted ?_⟩
  simp only [Disturbance.spares, Sweep.deletes, old]
  decide

/-- A used counter is written when the directory for it is there, or has been made. -/
theorem write_of_ensured {between files : FileTree} (enabled : w.disabled = false)
    (used : c.isUnused = false) (stamps : w.clock.Stamps)
    (ensured : w.files.ensureDirectories w.host.directories (w.snapshotDirectory c) =
      (between, none))
    (written : between.write (w.settings.snapshotPath c.application c.storedAs)
      (w.snapshotFile c) = .ok files) :
    w.write c = ({ w with files }.record [.snapshotWritten c.name
      (w.settings.snapshotPath c.application c.storedAs) (Snapshot.content c).length],
        .ok (some (Snapshot.content c).length)) := by
  have put := writeSnapshot_of_write (w := { w with files := between }) stamps written
  have on : ¬ w.disabled = true := by simp [enabled]
  have wanted : ¬ (c.isUnused &&
      !w.files.isPresent (w.settings.snapshotPath c.application c.storedAs)) = true := by simp [used]
  rw [snapshotDirectory] at ensured
  rw [write, if_neg on, if_neg wanted, ensured]
  exact put

theorem keepsDirectories_write (w : World) (c : Counter) :
    w.files.KeepsDirectories (w.write c).1.files := by
  have made := (w.files.growsTo_ensureDirectories w.host.directories
    (w.snapshotDirectory c)).keepsDirectories
  rcases w.files_write_cases c with same | same | ⟨file, written⟩
  · rw [same]
    exact fun _ found => found
  · rwa [same]
  · exact fun there found => FileTree.keepsDirectories_of_write written there (made there found)

theorem keepsDirectories_touch (w : World) (path : String) (modified : Int) :
    w.files.KeepsDirectories (w.touch path modified).files := by
  rcases w.files_touch_cases path modified with same | ⟨file, written⟩
  · rw [same]
    exact fun _ found => found
  · exact FileTree.keepsDirectories_of_write written

end World

def FileTree.regional : FileTree where
  nodes := ⟨[(tmp, .directory), (tmp.child "countervault", .directory),
    ((tmp.child "countervault").child "shop", .directory),
    (((tmp.child "countervault").child "shop").child "eu", .directory)], by decide⟩

theorem FileTree.wellFormed_regional : FileTree.regional.WellFormed := by
  have inside (place : Location) (name : String)
      (present : regional.nodeAt? (place.child name) ≠ none) :
      regional.nodeAt? place = some .directory ∧ PlainApplication name := by
    rw [nodeAt?, if_neg (place.child_ne_root name)] at present
    have listed := (Table.get?_ne_none_iff _ _).mp present
    change place.child name ∈ [_, _, _, _] at listed
    simp only [List.mem_cons, List.not_mem_nil, or_false, tmp, Location.child_inj] at listed
    rcases listed with ⟨rfl, rfl⟩ | ⟨rfl, rfl⟩ | ⟨rfl, rfl⟩ | ⟨rfl, rfl⟩
    all_goals exact ⟨by decide, by constructor <;> first | decide | (constructor <;> decide)⟩
  exact ⟨fun place name present => (inside place name present).1,
    fun place name present => (inside place name present).2⟩

def Counter.regional : Counter := { Counter.visited with storageName := some "eu/http" }

namespace World

/-- A world in which directories are there for what is stored under names with slashes. -/
def regional : World := { World.initial with files := .regional }

theorem ensureDirectories_regional :
    FileTree.regional.ensureDirectories Host.lenient.directories "/tmp/countervault/shop/eu" =
      (.regional, none) := by
  obtain ⟨count, made⟩ := FileTree.makeDirectories_of_parent
    (show FileTree.regional.isPresent (directoryOf "/tmp/countervault/shop/eu") = true by
      decide +kernel)
  rw [FileTree.ensureDirectories, count, if_neg (by decide), made]
  decide +kernel

theorem locate_regional : FileTree.regional.locate (Settings.inTmp.snapshotPath "shop" "eu/http") =
    .ok ((((tmp.child "countervault").child "shop").child "eu").child "http.ser.gz") := by
  decide +kernel

theorem write_regional :
    ∃ v, regional.write .regional = (v, .ok (some (Snapshot.content .regional).length)) := by
  have written := FileTree.write_of_locate (regional.snapshotFile .regional) locate_regional
    (by decide)
  exact ⟨_, write_of_ensured rfl (by decide) (by decide) ensureDirectories_regional written⟩

theorem not_shelved_regional {x : World} (settings : x.settings = .inTmp)
    (keeps : FileTree.regional.KeepsDirectories x.files) (place : Location) (name : String) :
    ¬ x.Shelved .regional place name := by
  rintro ⟨opens, located, -, -⟩
  rw [settings] at opens located
  have shop : FileTree.regional.locate (Settings.inTmp.directoryOf "shop") =
      .ok ((tmp.child "countervault").child "shop") := by decide +kernel
  cases (keeps.locate shop).symm.trans opens.located
  have same := (keeps.locate locate_regional).symm.trans located
  cases congrArg Location.depth (Except.ok.inj same)

/-- However old it is, it is still read after a purge. -/
theorem readCounter_purge_regional {x : World} (wf : x.files.WellFormed)
    (keeps : FileTree.regional.KeepsDirectories x.files) (same : regional.Untouched x)
    (found : x.files.file? (x.settings.snapshotPath Counter.regional.application
      Counter.regional.storedAs) = .ok file) (now : Binary64) :
    (x.purge {} Counter.regional.application now).1.readCounter .regional ≠ .ok none := by
  have purged := x.untouched_purge {} Counter.regional.application now
  have left := purge_passes (c := .regional) wf (not_shelved_regional same.settings keeps) found {} now
  rw [← purged.settings] at left
  exact readCounter_ne_none (purged.disabled.trans same.disabled) left

/-- Not every snapshot that is written is deleted when it is too old: under a name with a slash it lies
deeper than a purge looks. -/
theorem not_purge_of_written :
    ¬ ∀ (w v : World) (c : Counter) (size : Nat) (modified : Int) (now : Binary64) (millis days : Int),
      w.files.WellFormed → w.write c = (v, .ok (some size)) → Retention.millis now = .ok millis →
      Retention.days w.settings.retention = .ok days →
      Retention.isObsolete (Retention.cutoff millis days) modified = true →
      ((v.touch (w.settings.snapshotPath c.application c.storedAs) modified).purge {} c.application
        now).1.readCounter c = .ok none := by
  intro claim
  obtain ⟨v, wrote⟩ := write_regional
  have finite : Retention.millis (.finite 100000000) = .ok 100000000000 := by decide +kernel
  have read := claim _ v _ _ 0 _ _ 365 FileTree.wellFormed_regional wrote finite rfl (by decide)
  have wf := wellFormed_write FileTree.wellFormed_regional (w := regional) .regional
  have keeps := keepsDirectories_write regional .regional
  have same := regional.untouched_write .regional
  rw [wrote] at wf keeps same
  have placed := (file?_of_write wrote).1
  rw [← same.settings] at placed read
  generalize path : v.settings.snapshotPath _ _ = place at placed read
  have touched := v.untouched_touch place 0
  have found := file?_touch placed 0
  nth_rewrite 2 [← path] at found
  rw [← touched.settings] at found
  refine readCounter_purge_regional (wellFormed_touch wf place 0) ?_ (same.trans touched) found _ read
  exact fun there directory => v.keepsDirectories_touch place 0 there (keeps there directory)

end World

end CounterArchive
