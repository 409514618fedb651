import CounterArchive.Proofs.Archive.Effects
import CounterArchive.Proofs.Archive.Accounts
import CounterArchive.Proofs.Archive.Sweep

/-! The files of a process are always well-formed: those of a process that was just started are, and
no activity changes it. -/
namespace CounterArchive.World

variable {w : World}

theorem wellFormed_initial : World.initial.files.WellFormed := by
  have alone (place : Location) (name : String)
      (present : World.initial.files.nodeAt? (place.child name) ≠ none) :
      place = .root ∧ name = "tmp" := by
    rw [files_initial, FileTree.nodeAt?, if_neg (place.child_ne_root name)] at present
    have listed := (Table.get?_ne_none_iff _ _).mp present
    exact Location.child_inj.mp (List.mem_singleton.mp listed)
  constructor
  · intro place name present
    obtain ⟨rfl, -⟩ := alone place name present
    exact FileTree.nodeAt?_root _
  · intro place name present
    obtain ⟨-, rfl⟩ := alone place name present
    constructor
    · constructor <;> decide
    all_goals decide

theorem wellFormed_start (host : Host) (clock : Clock) (settings : Settings) :
    (start host clock settings).files.WellFormed := by
  apply FileTree.WellFormed.ensureDirectories
  have nothing (place : Location) (name : String) :
      FileTree.empty.nodeAt? (place.child name) = none := if_neg (place.child_ne_root name)
  exact ⟨fun place name present => absurd (nothing place name) present,
    fun place name present => absurd (nothing place name) present⟩

theorem wellFormed_write (wf : w.files.WellFormed) (c : Counter) :
    (w.write c).1.files.WellFormed := by
  have made := wf.ensureDirectories w.host.directories (w.snapshotDirectory c)
  rcases w.files_write_cases c with same | same | ⟨file, written⟩
  · rwa [same]
  · rwa [same]
  · exact made.write written

/-- A file gets another time of change, or all stays as it was. -/
theorem files_touch_cases (w : World) (path : String) (modified : Int) :
    (w.touch path modified).files = w.files ∨
      ∃ file, w.files.write path file = .ok (w.touch path modified).files := by
  unfold touch
  split
  · exact .inl rfl
  · split
    · exact .inl rfl
    · exact .inr ⟨_, ‹_›⟩

theorem wellFormed_touch (wf : w.files.WellFormed) (path : String) (modified : Int) :
    (w.touch path modified).files.WellFormed := by
  rcases w.files_touch_cases path modified with same | ⟨file, written⟩
  · rwa [same]
  · exact wf.write written

theorem wellFormed_purge (wf : w.files.WellFormed) (d : Disturbance) (application : String)
    (now : Binary64) : (w.purge d application now).1.files.WellFormed := by
  rcases purged_purge wf d application now with same | ⟨cutoff, purged⟩
  · rwa [same]
  · exact purged.wellFormed wf

theorem wellFormed_writeEach (wf : w.files.WellFormed) (ids : List (Registry.Id Counter)) :
    (w.writeEach ids).1.files.WellFormed := by
  refine writeEach_keeps (motive := fun u => u.files.WellFormed) ?_ wf
  intro id _ u wf
  unfold writeOne
  split
  · exact wf
  · exact wellFormed_write wf _

theorem wellFormed_writeAll (wf : w.files.WellFormed) (c : Collector) :
    (c.writeAll w).1.files.WellFormed := by
  rw [Collector.writeAll_eq]
  exact wellFormed_writeEach wf c.counters

theorem wellFormed_purgeOf (wf : w.files.WellFormed) (d : Disturbance) (c : Collector) :
    (c.purge w d).1.files.WellFormed := by
  rw [Collector.purge_eq]
  exact wellFormed_purge wf d c.application w.clock.seconds

/-- A job changes the files as its task does; the rest is written into the log. -/
theorem files_runTask (w : World) (d : Disturbance) (channel : Channel) (c : Collector)
    (task : Task) : (w.runTask d channel c task).files =
      match task with
      | .collect => (c.writeAll w).1.files
      | .purge => (c.purge w d).1.files := by
  cases task with
  | collect =>
    rw [runTask]
    rcases c.writeAll w with ⟨u, failure | size⟩
    · dsimp only
      split <;> rfl
    · rfl
  | purge =>
    rw [runTask]
    rcases c.purge w d with ⟨u, failure | retained⟩ <;> rfl

theorem wellFormed_runTask (wf : w.files.WellFormed) (d : Disturbance) (channel : Channel)
    (c : Collector) (task : Task) : (w.runTask d channel c task).files.WellFormed := by
  rw [files_runTask]
  cases task with
  | collect => exact wellFormed_writeAll wf c
  | purge => exact wellFormed_purgeOf wf d c

theorem wellFormed_operate (wf : w.files.WellFormed) (operation : Operation) :
    (w.operate operation).1.files.WellFormed := by
  cases operation with
  | addError id message requestName remoteUser =>
    simp only [operate, addError]
    split <;> exact wf
  | clear id =>
    simp only [operate, clear]
    split <;> exact wf
  | write id =>
    rw [operate]
    split
    · exact wf
    · exact wellFormed_write wf _
  | readCounter id =>
    rw [operate]
    split <;> exact wf
  | gather application ids metrics =>
    rw [operate]
    split <;> exact wf
  | restore k =>
    rw [operate]
    split
    · exact wf
    · rename_i c _
      obtain ⟨counters, log, same, -⟩ := restore_adds w c
      simp only [same]
      exact wf
  | writeAll k =>
    rw [operate]
    split
    · exact wf
    · exact wellFormed_writeAll wf _
  | purge d application now => exact wellFormed_purge wf d application now
  | touch application stored modified => exact wellFormed_touch wf _ modified
  | _ => exact wf

theorem wellFormed_carryOut (wf : w.files.WellFormed) (a : Activity) :
    (w.carryOut a).1.files.WellFormed := by
  cases a with
  | operate operation => exact wellFormed_operate wf operation
  | purgeAll k d =>
    simp only [carryOut, purgeAll]
    split
    · exact wf
    · exact wellFormed_purgeOf wf d _
  | startAgent application given =>
    obtain ⟨counters, collectors, log, same, -⟩ := startAgent_adds w application given
    simp only [carryOut, same]
    exact wf
  | runJob s job d =>
    simp only [carryOut, runJob]
    split
    · exact wf
    · exact wellFormed_runTask wf d s.channel _ job.task
  | _ => exact wf

/-- In all that becomes of a started world, the files are well-formed. -/
theorem wellFormed_carryOutAll (host : Host) (clock : Clock) (settings : Settings)
    (run : List Activity) : ((start host clock settings).carryOutAll run).1.files.WellFormed := by
  have along : ∀ (run : List Activity) (w : World), w.files.WellFormed →
      (w.carryOutAll run).1.files.WellFormed := by
    intro run
    induction run with
    | nil => exact fun _ wf => wf
    | cons a rest ih => exact fun w wf => ih _ (wellFormed_carryOut wf a)
  exact along run _ (wellFormed_start host clock settings)

end CounterArchive.World
