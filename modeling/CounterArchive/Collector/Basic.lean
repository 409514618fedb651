import CounterArchive.Counter.Basic
import CounterArchive.Failure
import CounterArchive.Metrics
import CounterArchive.Registry

/-! A collector holds the counters of one application, each under the name it is stored as. -/
namespace CounterArchive

structure Collector where
  application : String
  /-- Where writes and purges are counted, if anywhere. -/
  metrics : Option (Registry.Id Metrics)
  entries : Table String (Registry.Id Counter)

namespace Collector

/-- Adds counters to a collector. Of several that are stored under one name the last is held. -/
def addAll (c : Collector) (registry : Registry Counter) :
    List (Registry.Id Counter) → Except Failure Collector
  | [] => .ok c
  | id :: rest =>
    match registry.get? id with
    | none => .error .noCounter
    | some counter =>
      if counter.application ≠ c.application then
        .error (.foreignCounter counter.name counter.application c.application)
      else addAll { c with entries := c.entries.insert counter.storedAs id } registry rest

/-- A collector of some counters, all of which have to belong to its application. -/
def of (registry : Registry Counter) (application : String) (counters : List (Registry.Id Counter))
    (metrics : Option (Registry.Id Metrics)) : Except Failure Collector :=
  addAll ⟨application, metrics, .empty⟩ registry counters

def counters (c : Collector) : List (Registry.Id Counter) := c.entries.values

def get? (c : Collector) (storedAs : String) : Option (Registry.Id Counter) :=
  c.entries.get? storedAs

end Collector

end CounterArchive
