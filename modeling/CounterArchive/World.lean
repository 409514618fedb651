import CounterArchive.Collector.Basic
import CounterArchive.Host
import CounterArchive.Journal

/-! All that operations read and change: the host, the clock, the settings and the switch that seals
the archive, the files, the log, and the values that are shared between their holders. -/
namespace CounterArchive

structure World where
  host : Host
  clock : Clock
  settings : Settings
  /-- Whether the storage is disabled. It stays so until the settings are loaded again. -/
  disabled : Bool
  files : FileTree
  counters : Registry Counter
  metrics : Registry Metrics
  collectors : Registry Collector
  /-- The metrics of the process as a whole. -/
  processMetrics : Registry.Id Metrics
  /-- The latest event comes last. -/
  log : List Event

namespace World

/-- A world in which nothing has happened and there is nothing but a directory for temporary
files. -/
def start (host : Host) (clock : Clock) (settings : Settings) : World :=
  let (metrics, processMetrics) := (∅ : Registry Metrics).register {}
  { host, clock, settings, metrics, processMetrics
    disabled := settings.disabled
    files := (FileTree.empty.ensureDirectories host.directories settings.temporary).1
    counters := ∅
    collectors := ∅
    log := [] }

/-- Loads the settings again. Files and counters stay, and the metrics of the process begin anew.
When the settings have a fault, the archive moves nevertheless, and all else is as before. -/
def reload (w : World) (env : Environment) : World × Option Settings.Fault :=
  match Settings.ofEnvironment w.settings.temporary env with
  | .error fault => ({ w with settings := w.settings.relocate env }, some fault)
  | .ok settings =>
    let (metrics, processMetrics) := w.metrics.register {}
    ({ w with settings, metrics, processMetrics, disabled := settings.disabled }, none)

def disable (w : World) : World := { w with disabled := true }

def record (w : World) (events : List Event) : World := { w with log := w.log ++ events }

end World

end CounterArchive
