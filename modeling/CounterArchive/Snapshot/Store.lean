import CounterArchive.World

/-! Writing counters to snapshot files and reading them back. While the storage is disabled,
neither looks at the files. -/
namespace CounterArchive.World

def snapshotBytes (w : World) (c : Counter) (path : String) : List UInt8 :=
  match w.clock.stamp? with
  | none => Snapshot.broken path
  | some stamp => Snapshot.encode w.host.deflater stamp path c

/-- Writes the bytes of a snapshot into a directory that is there. When there is no room for its
stamp, it is too late for what was in the file. -/
def writeSnapshot (w : World) (c : Counter) (path : String) :
    World × Except Failure (Option Nat) :=
  match w.files.write path ⟨w.snapshotBytes c path, w.clock.micros * 1000⟩ with
  | .error fault => (w, .error (.file path fault))
  | .ok files =>
    if w.clock.Stamps then
      let size := (Snapshot.content c).length
      ({ w with files }.record [.snapshotWritten c.name path size], .ok (some size))
    else ({ w with files }, .error (.unstamped w.clock.stamp))

def directoryFailure (directory : String) (fault : FileTree.Fault) : Failure :=
  if fault.isInFiles then .noDirectory directory else .file directory fault

/-- Writes the snapshot of a counter and tells the size of its document. Nothing is written for a
counter that was never used and has no file yet. -/
def write (w : World) (c : Counter) : World × Except Failure (Option Nat) :=
  let path := w.settings.snapshotPath c.application c.storedAs
  let directory := Path.directoryOf path
  if w.disabled then (w, .ok none)
  else if c.isUnused && !w.files.isPresent path then (w, .ok none)
  else
    match w.files.ensureDirectories w.host.directories directory with
    | (files, some fault) => ({ w with files }, .error (directoryFailure directory fault))
    | (files, none) => { w with files }.writeSnapshot c path

def readSnapshot (w : World) (path : String) : Except Failure Counter :=
  match w.files.file? path with
  | .error fault => .error (.file path fault)
  | .ok file =>
    match Snapshot.decode w.host.nesting w.clock.now? file.content with
    | .ok counter => .ok counter
    | .error (.damaged damage) => .error (.damagedSnapshot path damage)
    | .error (.tooDeep container) => .error (.tooDeep container)
    | .error (.halted cause) => .error (.ofHalt cause)

def read (w : World) (application storedAs : String) : Except Failure (Option Counter) :=
  let path := w.settings.snapshotPath application storedAs
  if w.disabled || !w.files.isPresent path then .ok none
  else (w.readSnapshot path).map some

def readCounter (w : World) (c : Counter) : Except Failure (Option Counter) :=
  w.read c.application c.storedAs

end CounterArchive.World
