import CounterArchive.FileTree.Basic
import CounterArchive.Retention
import CounterArchive.Snapshot.Codec

/-! All that can go wrong in the archive. -/
namespace CounterArchive

inductive Failure where
  /-- A directory for snapshots cannot be made. -/
  | noDirectory (path : String)
  | damagedSnapshot (path : String) (damage : Snapshot.Damage)
  /-- Arrays or objects in a snapshot nest too deep. -/
  | tooDeep (container : Json.Container)
  | file (path : String) (fault : FileTree.Fault)
  | retention (fault : Retention.Fault)
  /-- The present is no finite number. -/
  | time (fault : Binary64.Unbounded)
  /-- The clock shows no date, as one does that was set beyond the calendar. -/
  | noPresent
  /-- There is no room for the time that a snapshot would be stamped with. -/
  | unstamped (seconds : Int)
  /-- The jobs of an agent cannot be run. -/
  | unscheduled (reason : String)
  | reservedName (name : Json.ReservedName)
  | foreignCounter (name belongsTo application : String)
  | noCounter
deriving DecidableEq

namespace Failure

def message : Failure → String
  | .noDirectory path => "Storage directory can't be created: " ++ path
  | .damagedSnapshot path damage =>
    "Unable to decode counter snapshot " ++ path ++ ": " ++ damage.message
  | .tooDeep container => (Json.Failure.tooDeep container).message []
  | .file path fault => fault.message path
  | .retention fault => fault.message
  | .time fault => fault.message
  | .noPresent => "date value out of range"
  | .unstamped seconds =>
    if 0 ≤ seconds ∧ seconds < Nat.pow 2 64 then "'L' format requires 0 <= number <= 4294967295"
    else "argument out of range"
  | .unscheduled reason => reason
  | .reservedName name => name.message
  | .foreignCounter name belongsTo application =>
    "Counter " ++ name ++ " belongs to " ++ belongsTo ++ ", not " ++ application
  | .noCounter => "counter is required"

def ofHalt : Json.Halt → Failure
  | .undated => .noPresent
  | .reserved name => .reservedName name

/-- Whether the storage is to blame, and not what it was used for. -/
def concernsStorage : Failure → Bool
  | .noDirectory _ => true
  | .damagedSnapshot _ _ => true
  | .file _ fault => fault.isInFiles
  | _ => false

end Failure

end CounterArchive
