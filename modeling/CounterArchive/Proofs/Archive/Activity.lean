import CounterArchive.Agent
import CounterArchive.Proofs.Archive.Ledger
import CounterArchive.Proofs.Archive.Store

/-! All that a process does with its archive: the operations on counters and collectors, the start of
an agent, and the jobs of a scheduler; and what these activities leave alone. -/
namespace CounterArchive

inductive Activity where
  | operate (operation : Operation)
  /-- A counter of a collector is looked for. -/
  | find (collector : Registry.Id Collector) (stored : String)
  | purgeAll (collector : Registry.Id Collector) (disturbance : Disturbance)
  | startAgent (application : Option String) (counters : Option (List (Registry.Id Counter)))
  | startCleaner (collector : Registry.Id Collector) (channel : Channel)
  | runJob (scheduler : Scheduler) (job : Job) (disturbance : Disturbance)

inductive Report where
  | answered (answer : Answer)
  | found (counter : Option (Registry.Id Counter))
  | purged (result : Except Failure Nat)
  | started (result : Except Failure (Registry.Id Collector × Option Scheduler))
  | scheduled (result : Except Failure Scheduler)
  /-- A job tells nothing. -/
  | ran

namespace World

/-- The host has nothing against the jobs of an agent, if any are wanted. -/
def TakesJobs (w : World) : Prop := w.settings.cleaner = true → w.objection? = none

def purgeAll (w : World) (d : Disturbance) (k : Registry.Id Collector) :
    World × Except Failure Nat :=
  match w.collectors.get? k with
  | none => (w, .ok 0)
  | some c => c.purge w d

def carryOut (w : World) : Activity → World × Report
  | .operate operation => let (w, answer) := w.operate operation; (w, .answered answer)
  | .find k stored => (w, .found ((w.collectors.get? k).bind (·.get? stored)))
  | .purgeAll k d => let (w, result) := w.purgeAll d k; (w, .purged result)
  | .startAgent application counters =>
    let (w, result) := w.startAgent application counters
    (w, .started result)
  | .startCleaner k channel => (w, .scheduled (w.startCleaner k channel))
  | .runJob scheduler job d => (w.runJob d scheduler job, .ran)

def carryOutAll (w : World) : List Activity → World × List Report
  | [] => (w, [])
  | a :: rest =>
    let (w, report) := w.carryOut a
    let (w, reports) := w.carryOutAll rest
    (w, report :: reports)

theorem carryOutAll_cons (w : World) (a : Activity) (rest : List Activity) :
    w.carryOutAll (a :: rest) = (((w.carryOut a).1.carryOutAll rest).1,
      (w.carryOut a).2 :: ((w.carryOut a).1.carryOutAll rest).2) := rfl

theorem carryOutAll_concat (w : World) (before : List Activity) (a : Activity) :
    (w.carryOutAll (before ++ [a])).1 = ((w.carryOutAll before).1.carryOut a).1 := by
  induction before generalizing w with
  | nil => rfl
  | cons first rest ih =>
    rw [List.cons_append, carryOutAll_cons, carryOutAll_cons]
    exact ih _

/-! What is left alone -/

theorem SameBesidesFiles.trans {w v u : World} (first : w.SameBesidesFiles v)
    (second : v.SameBesidesFiles u) : w.SameBesidesFiles u where
  host := second.host.trans first.host
  clock := second.clock.trans first.clock
  settings := second.settings.trans first.settings
  disabled := second.disabled.trans first.disabled
  counters := second.counters.trans first.counters
  collectors := second.collectors.trans first.collectors
  processMetrics := second.processMetrics.trans first.processMetrics

theorem SameBesidesFiles.takesJobs {w v : World} (same : w.SameBesidesFiles v)
    (takes : w.TakesJobs) : v.TakesJobs := by
  rwa [TakesJobs, objection?, same.host, same.clock, same.settings]

/-- All but the files and the log is as it was. -/
structure Untouched (w v : World) : Prop extends w.SameBesidesFiles v where
  metrics : v.metrics = w.metrics

namespace Untouched

variable {w v u : World}

theorem refl (w : World) : w.Untouched w := ⟨.refl w, rfl⟩

theorem trans (first : w.Untouched v) (second : v.Untouched u) : w.Untouched u :=
  ⟨first.toSameBesidesFiles.trans second.toSameBesidesFiles, second.metrics.trans first.metrics⟩

theorem withFiles (w : World) (files : FileTree) : w.Untouched { w with files } :=
  ⟨.withFiles w files, rfl⟩

theorem record (w : World) (events : List Event) : w.Untouched (w.record events) :=
  ⟨⟨rfl, rfl, rfl, rfl, rfl, rfl, rfl⟩, rfl⟩

end Untouched

variable (w : World)

theorem untouched_writeSnapshot (c : Counter) (path : String) :
    w.Untouched (w.writeSnapshot c path).1 := by
  unfold writeSnapshot
  split
  · exact .refl w
  · split
    · exact (Untouched.withFiles w _).trans (.record _ _)
    · exact .withFiles w _

theorem untouched_write (c : Counter) : w.Untouched (w.write c).1 := by
  unfold write
  dsimp only
  split
  · exact .refl w
  · split
    · exact .refl w
    · split
      · exact .withFiles w _
      · exact (Untouched.withFiles w _).trans (untouched_writeSnapshot _ c _)

theorem untouched_purge (d : Disturbance) (application : String) (now : Binary64) :
    w.Untouched (w.purge d application now).1 := by
  unfold purge
  split
  · exact .refl w
  · split
    · exact .refl w
    · unfold purgeAt
      dsimp only
      split
      · exact .refl w
      · exact (Untouched.withFiles w _).trans (.record _ _)

theorem untouched_touch (path : String) (modified : Int) : w.Untouched (w.touch path modified) := by
  unfold touch
  split
  · exact .refl w
  · split
    · exact .refl w
    · exact .withFiles w _

theorem sameBesidesFiles_recordWrite (c : Collector) (size : Option Nat) :
    w.SameBesidesFiles (c.recordWrite w size) := by
  unfold Collector.recordWrite
  split
  · exact .refl w
  · exact ⟨rfl, rfl, rfl, rfl, rfl, rfl, rfl⟩

theorem sameBesidesFiles_recordPurge (c : Collector) (retained : Nat) :
    w.SameBesidesFiles (c.recordPurge w retained) := by
  unfold Collector.recordPurge
  split
  · exact .refl w
  · exact ⟨rfl, rfl, rfl, rfl, rfl, rfl, rfl⟩

theorem sameBesidesFiles_writeEntries (c : Collector) (written : Nat)
    (ids : List (Registry.Id Counter)) :
    w.SameBesidesFiles (Collector.writeEntries w c written ids).1 := by
  induction ids generalizing w written with
  | nil => exact .refl w
  | cons id rest ih =>
    unfold Collector.writeEntries
    split
    · exact .refl w
    · rename_i counter _
      have same := (untouched_write w counter).toSameBesidesFiles
      split
      · rename_i failed
        rw [failed] at same
        exact same
      · rename_i wrote
        rw [wrote] at same
        exact same.trans ((sameBesidesFiles_recordWrite _ c _).trans (ih _ _))

theorem sameBesidesFiles_writeAll (c : Collector) : w.SameBesidesFiles (c.writeAll w).1 :=
  sameBesidesFiles_writeEntries w c 0 c.counters

theorem sameBesidesFiles_purge (d : Disturbance) (c : Collector) :
    w.SameBesidesFiles (c.purge w d).1 := by
  have same := (untouched_purge w d c.application w.clock.seconds).toSameBesidesFiles
  unfold Collector.purge
  split
  · rename_i failed
    rw [failed] at same
    exact same
  · rename_i purged
    rw [purged] at same
    exact same.trans (sameBesidesFiles_recordPurge _ c _)

theorem sameBesidesFiles_purgeAll (d : Disturbance) (k : Registry.Id Collector) :
    w.SameBesidesFiles (w.purgeAll d k).1 := by
  unfold purgeAll
  split
  · exact .refl w
  · exact sameBesidesFiles_purge w d _

theorem sameBesidesFiles_runTask (d : Disturbance) (channel : Channel) (c : Collector)
    (task : Task) : w.SameBesidesFiles (w.runTask d channel c task) := by
  cases task with
  | collect =>
    have same := sameBesidesFiles_writeAll w c
    unfold runTask
    dsimp only
    split
    · rename_i wrote
      rw [wrote] at same
      exact same.trans (Untouched.record _ _).toSameBesidesFiles
    · rename_i failed
      rw [failed] at same
      split
      · exact same.trans (Untouched.record _ _).toSameBesidesFiles
      · exact same.trans (Untouched.record _ _).toSameBesidesFiles
  | purge =>
    have same := sameBesidesFiles_purge w d c
    unfold runTask
    dsimp only
    split
    · rename_i purged
      rw [purged] at same
      exact same.trans (Untouched.record _ _).toSameBesidesFiles
    · rename_i failed
      rw [failed] at same
      exact same.trans (Untouched.record _ _).toSameBesidesFiles

theorem sameBesidesFiles_runJob (d : Disturbance) (s : Scheduler) (job : Job) :
    w.SameBesidesFiles (w.runJob d s job) := by
  unfold runJob
  split
  · exact .refl w
  · exact sameBesidesFiles_runTask w d s.channel _ job.task

end World

end CounterArchive
