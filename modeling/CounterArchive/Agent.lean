import CounterArchive.Collector.Archive

/-! The agent of an application: it restores the counters when it starts, and then writes them
again and again and purges the archive once a day. -/
namespace CounterArchive

inductive Task where
  | collect
  | purge
deriving DecidableEq

structure Job where
  schedule : Schedule
  task : Task
deriving DecidableEq

structure Scheduler where
  collector : Registry.Id Collector
  channel : Channel
  jobs : List Job
  running : Bool

namespace World

/-- The jobs of an agent: to write all counters again and again, and to purge the archive at
midnight. -/
def regularJobs (s : Settings) : List Job :=
  [⟨.every s.resolution, .collect⟩, ⟨.daily 0 0, .purge⟩]

/-- What the host has against the jobs of an agent. -/
def objection? (w : World) : Option String :=
  w.host.jobs.objection? w.clock ((regularJobs w.settings).map Job.schedule)

/-- Starts the regular jobs. The age up to which snapshots are kept has to be valid. -/
def startCleaner (w : World) (collector : Registry.Id Collector) (channel : Channel) :
    Except Failure Scheduler :=
  match Retention.days w.settings.retention with
  | .error fault => .error (.retention fault)
  | .ok _ =>
    match w.objection? with
    | some reason => .error (.unscheduled reason)
    | none => .ok ⟨collector, channel, regularJobs w.settings, true⟩

/-- What a job does with a collector. Failures end in the log. -/
def runTask (w : World) (d : Disturbance) (channel : Channel) (c : Collector) : Task → World
  | .collect =>
    match c.writeAll w with
    | (w, .ok size) => w.record [.countersWritten channel size]
    | (w, .error failure) =>
      if failure.concernsStorage then w.record [.collectStorageFailure channel failure.message]
      else w.record [.collectFailure channel failure.message]
  | .purge =>
    match c.purge w d with
    | (w, .ok retained) => w.record [.purgeDone channel retained]
    | (w, .error failure) => w.record [.purgeFailure channel failure.message]

def runJob (w : World) (d : Disturbance) (s : Scheduler) (job : Job) : World :=
  match w.collectors.get? s.collector with
  | none => w
  | some c => w.runTask d s.channel c job.task

/-- Restores the counters of a collector, of which other holders learn too. -/
def restore (w : World) (id : Registry.Id Collector) : World × Except Failure Nat :=
  match w.collectors.get? id with
  | none => (w, .ok 0)
  | some c =>
    let (w, c, result) := c.restore w
    ({ w with collectors := w.collectors.update id fun _ => c }, result)

/-- The names of the counters of an application that names none itself. -/
def defaultCounters : List String := ["http", "sql", "error"]

/-- The counters to start with: those that were given, or fresh ones. -/
def counterIds (w : World) (application : String) :
    Option (List (Registry.Id Counter)) → Except Failure (World × List (Registry.Id Counter))
  | some ids => .ok (w, ids)
  | none =>
    match w.clock.now? with
    | none => .error .noPresent
    | some now =>
      let (counters, ids) := w.counters.registerAll
        (defaultCounters.map fun name => Counter.fresh name application now)
      .ok ({ w with counters }, ids)

/-- Restores the counters of a new collector, unless the storage is disabled. -/
def restoreNew (w : World) (c : Collector) : World × Collector × Except Failure Nat :=
  if w.disabled then (w.record [.storageDisabled c.application], c, .ok 0) else c.restore w

def startJobs (w : World) (collector : Registry.Id Collector) : Except Failure (Option Scheduler) :=
  if w.settings.cleaner then (w.startCleaner collector .agent).map some else .ok none

/-- Starts the agent of an application, which without a name is the one of the settings. Nothing
is scheduled unless all went well. -/
def startAgent (w : World) (application : Option String)
    (counters : Option (List (Registry.Id Counter))) :
    World × Except Failure (Registry.Id Collector × Option Scheduler) :=
  let application := application.getD w.settings.application
  match Retention.days w.settings.retention with
  | .error fault => (w, .error (.retention fault))
  | .ok days =>
    match w.counterIds application counters with
    | .error failure => (w, .error failure)
    | .ok (w, ids) =>
      match Collector.of w.counters application ids (some w.processMetrics) with
      | .error failure => (w, .error failure)
      | .ok c =>
        match w.restoreNew c with
        | (w, _, .error failure) => (w, .error failure)
        | (w, c, .ok _) =>
          let (collectors, id) := w.collectors.register c
          let w := { w with collectors }
          match w.startJobs id with
          | .error failure => (w, .error failure)
          | .ok scheduler =>
            (w.record [.agentStarted application days scheduler.isSome], .ok (id, scheduler))

end World

end CounterArchive
