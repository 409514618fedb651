import CounterArchive.Settings

/-! What is worth a record in the log, and the text of the record. -/
namespace CounterArchive

inductive Level where
  | debug
  | info
  | warning
  | error
deriving DecidableEq

def Level.name : Level → String
  | .debug => "DEBUG"
  | .info => "INFO"
  | .warning => "WARNING"
  | .error => "ERROR"

inductive Channel where
  | storage
  | collector
  | agent
  /-- A channel of somebody else's. -/
  | named (name : String)
deriving DecidableEq

def Channel.name : Channel → String
  | .storage => Settings.defaultName ++ ".storage"
  | .collector => Settings.defaultName ++ ".collector"
  | .agent => Settings.defaultName
  | .named name => name

inductive Event where
  | snapshotWritten (counter path : String) (size : Nat)
  | snapshotNotDeleted (path reason : String)
  | snapshotsPurged (application : String) (deleted retained : Nat)
  | countersRestored (application : String) (count : Nat)
  | countersWritten (channel : Channel) (size : Nat)
  | collectStorageFailure (channel : Channel) (reason : String)
  | collectFailure (channel : Channel) (reason : String)
  | purgeDone (channel : Channel) (retained : Nat)
  | purgeFailure (channel : Channel) (reason : String)
  | storageDisabled (application : String)
  | agentStarted (application : String) (days : Int) (cleaner : Bool)
deriving DecidableEq

namespace Event

def level : Event → Level
  | .snapshotWritten .. | .countersWritten .. => .debug
  | .snapshotNotDeleted .. => .warning
  | .collectStorageFailure .. | .collectFailure .. | .purgeFailure .. => .error
  | _ => .info

def channel : Event → Channel
  | .snapshotWritten .. | .snapshotNotDeleted .. | .snapshotsPurged .. => .storage
  | .countersRestored .. => .collector
  | .storageDisabled .. | .agentStarted .. => .agent
  | .countersWritten channel _ | .collectStorageFailure channel _ | .collectFailure channel _
  | .purgeDone channel _ | .purgeFailure channel _ => channel

def message : Event → String
  | .snapshotWritten counter path size =>
    "event=snapshot_written counter=" ++ counter ++ " path=" ++ path ++ " size_bytes=" ++
      Numeral.decimalText size
  | .snapshotNotDeleted path reason =>
    "event=snapshot_delete_failure path=" ++ path ++ " error=" ++ reason
  | .snapshotsPurged application deleted retained =>
    "event=snapshots_purged application=" ++ application ++ " deleted=" ++
      Numeral.decimalText deleted ++ " retained_bytes=" ++ Numeral.decimalText retained
  | .countersRestored application count =>
    "event=counters_restored application=" ++ application ++ " count=" ++ Numeral.decimalText count
  | .countersWritten _ size =>
    "event=counters_written estimated_size_bytes=" ++ Numeral.decimalText size
  | .collectStorageFailure _ reason => "Storage error in collect job: " ++ reason
  | .collectFailure _ reason => "Unexpected error in collect job: " ++ reason
  | .purgeDone _ retained => "event=purge_done retained_bytes=" ++ Numeral.decimalText retained
  | .purgeFailure _ reason => "Unexpected error in purge job: " ++ reason
  | .storageDisabled application => "event=storage_disabled application=" ++ application
  | .agentStarted application days cleaner =>
    "event=agent_started application=" ++ application ++ " retention_days=" ++
      Numeral.signedText days ++ " cleaner=" ++ (if cleaner then "True" else "False")

end Event

end CounterArchive
