import CounterArchive.Proofs.FileTree.Changes

/-! Making directories. A tree gets new directories where nothing was, and keeps everything else;
in particular no file is changed, whether all goes well or not. -/
namespace CounterArchive.FileTree

variable {t u v : FileTree} {path : String} {place : Location}

/-- One tree is another one with more directories. -/
def GrowsTo (t u : FileTree) : Prop :=
  ∀ place, u.nodeAt? place = t.nodeAt? place ∨
    t.nodeAt? place = none ∧ u.nodeAt? place = some .directory

def SameFiles (t u : FileTree) : Prop :=
  ∀ place file, u.nodeAt? place = some (.file file) ↔ t.nodeAt? place = some (.file file)

theorem SameFiles.refl (t : FileTree) : t.SameFiles t := fun _ _ => Iff.rfl

namespace GrowsTo

theorem refl (t : FileTree) : t.GrowsTo t := fun _ => .inl rfl

theorem trans (first : t.GrowsTo u) (second : u.GrowsTo v) : t.GrowsTo v := by
  intro place
  rcases second place with same | ⟨absent, made⟩
  · rw [same]
    exact first place
  · rcases first place with same | ⟨-, before⟩
    · exact .inr ⟨same.symm.trans absent, made⟩
    · rw [before] at absent
      cases absent

theorem insert (absent : t.nodeAt? place = none) :
    t.GrowsTo ⟨t.nodes.insert place .directory⟩ := by
  intro there
  have notRoot : place ≠ .root := ne_root_of_nodeAt? (t := t) (by simp [absent])
  rw [nodeAt?_insert t .directory notRoot]
  by_cases here : there = place
  · simp [here, absent]
  · simp [here]

theorem kept (grows : t.GrowsTo u) {node : Node} (found : t.nodeAt? place = some node) :
    u.nodeAt? place = some node := by
  rcases grows place with same | ⟨absent, -⟩
  · rw [same, found]
  · rw [found] at absent
    cases absent

theorem keepsDirectories (grows : t.GrowsTo u) : t.KeepsDirectories u := fun _ => grows.kept

theorem file? (grows : t.GrowsTo u) {file : File} (found : t.file? path = .ok file) :
    u.file? path = .ok file := by
  obtain ⟨place, located, node⟩ := locate_of_file? found
  exact file?_of_locate (grows.keepsDirectories.locate located) (grows.kept node)

theorem sameFiles (grows : t.GrowsTo u) : t.SameFiles u := by
  intro place file
  refine ⟨?_, grows.kept⟩
  intro found
  rcases grows place with same | ⟨-, made⟩
  · rw [← same, found]
  · rw [found] at made
    cases made

end GrowsTo

theorem growsTo_ensureDirectory (t : FileTree) (path : String) :
    t.GrowsTo (t.ensureDirectory path).1 := by
  rcases t.ensureDirectory_cases path with same | ⟨place, -, absent, made⟩
  · rw [same]
    exact .refl t
  · rw [made]
    exact .insert absent

theorem growsTo_ensureDirectories (t : FileTree) (most : Nat) (path : String) :
    t.GrowsTo (t.ensureDirectories most path).1 :=
  ensureDirectories_keeps (fun u path grows => grows.trans (u.growsTo_ensureDirectory path))
    (.refl t) most path

end CounterArchive.FileTree
