import CounterArchive.Snapshot.Purge
import CounterArchive.Snapshot.Store

/-! What a collector does with the snapshots of its counters. -/
namespace CounterArchive.Collector

/-- Replaces entries by what is stored of their counters, one after the other, up to the first
that cannot be read. The number counts replacements. -/
def restoreEntries (w : World) (c : Collector) (count : Nat) :
    List (String × Registry.Id Counter) → World × Collector × Except Failure Nat
  | [] => (w, c, .ok count)
  | (name, id) :: rest =>
    match w.counters.get? id with
    | none => (w, c, .error .noCounter)
    | some counter =>
      match w.readCounter counter with
      | .error failure => (w, c, .error failure)
      | .ok none => restoreEntries w c count rest
      | .ok (some stored) =>
        let (counters, id) := w.counters.register stored
        restoreEntries { w with counters } { c with entries := c.entries.insert name id }
          (count + 1) rest

def restore (w : World) (c : Collector) : World × Collector × Except Failure Nat :=
  match restoreEntries w c 0 c.entries.entries with
  | (w, c, .ok count) =>
    (if count = 0 then w else w.record [.countersRestored c.application count], c, .ok count)
  | failed => failed

def recordWrite (w : World) (c : Collector) (size : Option Nat) : World :=
  match c.metrics with
  | none => w
  | some id => { w with metrics := w.metrics.update id (·.recordWrite (size.map Int.ofNat)) }

/-- Writes counters one after the other, up to the first that cannot be written. The number is
the size of what has been written. -/
def writeEntries (w : World) (c : Collector) (written : Nat) :
    List (Registry.Id Counter) → World × Except Failure Nat
  | [] => (w, .ok written)
  | id :: rest =>
    match w.counters.get? id with
    | none => (w, .error .noCounter)
    | some counter =>
      match w.write counter with
      | (w, .error failure) => (w, .error failure)
      | (w, .ok size) => writeEntries (recordWrite w c size) c (written + size.getD 0) rest

def writeAll (w : World) (c : Collector) : World × Except Failure Nat :=
  writeEntries w c 0 c.counters

def recordPurge (w : World) (c : Collector) (retained : Nat) : World :=
  match c.metrics with
  | none => w
  | some id => { w with metrics := w.metrics.update id (·.recordPurge retained) }

def purge (w : World) (d : Disturbance) (c : Collector) : World × Except Failure Nat :=
  match w.purge d c.application w.clock.seconds with
  | (w, .error failure) => (w, .error failure)
  | (w, .ok retained) => (recordPurge w c retained, .ok retained)

end CounterArchive.Collector
