/-! Figures about what has been written and purged. -/
namespace CounterArchive

structure Metrics where
  written : Nat := 0
  skipped : Nat := 0
  bytes : Int := 0
  purges : Nat := 0
  /-- The bytes of all snapshots after the last purge. -/
  retained : Int := 0
deriving DecidableEq

namespace Metrics

/-- Counts a write of so many bytes, or one that was left out. -/
def recordWrite (m : Metrics) : Option Int → Metrics
  | none => { m with skipped := m.skipped + 1 }
  | some size => { m with written := m.written + 1, bytes := m.bytes + size }

def recordPurge (m : Metrics) (retained : Int) : Metrics :=
  { m with purges := m.purges + 1, retained }

end Metrics

end CounterArchive
