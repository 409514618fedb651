import CounterArchive.FileTree.Path
import CounterArchive.Text.DecimalDigit
import CounterArchive.Text.Quoted

/-! The settings of a process, which come from environment variables and stay as they are until
they are loaded again. -/
namespace CounterArchive

/-- The variables that are looked at; one that is not set is absent. -/
structure Environment where
  storageDir : Option String := none
  obsoleteStatsDays : Option String := none
  storageDisabled : Option String := none
  enableCleaner : Option String := none
  resolutionSeconds : Option String := none
  applicationName : Option String := none

structure Settings where
  /-- The directory for temporary files. -/
  temporary : String
  /-- The directory of the archive, perhaps seen from that for temporary files. -/
  storage : String
  /-- The age up to which snapshots are kept, as it was given. -/
  retention : Option String
  disabled : Bool
  cleaner : Bool
  /-- The seconds from one writing of all counters to the next. -/
  resolution : Int
  application : String
deriving DecidableEq

namespace Settings

/-- The name of the archive's directory and of an application without a name of its own. -/
def defaultName : String := "countervault"

def defaultResolution : Int := 60

def isYes (text : String) : Bool :=
  ["true", "1", "yes"].contains (String.ofList (text.toList.map Char.toLower))

def quotedLimit : Nat := 200

/-- The resolution is no whole number. -/
structure Fault where
  text : String
  fault : Numeral.Fault
deriving DecidableEq

def Fault.message : Fault → String
  | ⟨text, .malformed⟩ =>
    "invalid literal for int() with base 10: " ++
      String.ofList ((Text.quoted text).toList.take quotedLimit)
  | ⟨_, .tooLong digits⟩ => Numeral.tooLongMessage digits

def resolutionOf : Option String → Except Fault Int
  | none => .ok defaultResolution
  | some text =>
    match Numeral.readSigned Text.decimalDigit? text.toList with
    | .ok seconds => .ok (max 1 seconds)
    | .error fault => .error ⟨text, fault⟩

/-- The directory of the archive, which without a variable has a name of its own. -/
def storageOf (temporary : String) (env : Environment) : String :=
  env.storageDir.getD (Path.join temporary defaultName)

def ofEnvironment (temporary : String) (env : Environment) : Except Fault Settings := do
  return {
    temporary
    storage := storageOf temporary env
    retention := env.obsoleteStatsDays
    disabled := env.storageDisabled.any isYes
    cleaner := env.enableCleaner.all isYes
    resolution := ← resolutionOf env.resolutionSeconds
    application := env.applicationName.getD defaultName }

/-- Settings of which only the place of the archive and the age of its snapshots are new. -/
def relocate (s : Settings) (env : Environment) : Settings :=
  { s with storage := storageOf s.temporary env, retention := env.obsoleteStatsDays }

def directoryOf (s : Settings) (application : String) : String :=
  let root := if Path.isAbsolute s.storage then s.storage else Path.join s.temporary s.storage
  Path.join root application

def snapshotSuffix : String := ".ser.gz"

def snapshotPath (s : Settings) (application storedAs : String) : String :=
  Path.join (s.directoryOf application) (storedAs ++ snapshotSuffix)

end Settings

end CounterArchive
