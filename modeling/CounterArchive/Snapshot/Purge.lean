import CounterArchive.World

/-! Deleting the obsolete snapshots of an application. What cannot be deleted is kept, and what
vanishes in the meantime is passed over. -/
namespace CounterArchive

/-- What others do while files are purged: files with some names cannot be deleted, and files with
some names vanish as soon as they have been seen. -/
structure Disturbance where
  locked : List String := []
  vanishing : List String := []

structure Sweep where
  files : FileTree
  deleted : Nat := 0
  /-- The bytes of all snapshots that were kept. -/
  retained : Nat := 0
  events : List Event := []

namespace Sweep

def keep (s : Sweep) (file : File) : Sweep :=
  { s with retained := s.retained + file.content.length }

def keepUndeleted (s : Sweep) (file : File) (path reason : String) : Sweep :=
  { s.keep file with events := s.events ++ [.snapshotNotDeleted path reason] }

def lockedReason : String := "file is locked"

def visit (locked : List String) (directory : String) (cutoff : Int) (s : Sweep)
    (name : String) : Sweep :=
  let path := Path.join directory name
  match s.files.file? path with
  | .error _ => s
  | .ok file =>
    if !Retention.isObsolete cutoff file.modified then s.keep file
    else if locked.contains name then s.keepUndeleted file path lockedReason
    else
      match s.files.remove path with
      | .error fault => s.keepUndeleted file path (fault.message path)
      | .ok files => { s with files, deleted := s.deleted + 1 }

end Sweep

namespace World

def isSnapshotName (name : String) : Bool :=
  Settings.snapshotSuffix.toList.isSuffixOf name.toList

/-- The names of the snapshot files in a directory, in order. A directory that cannot be listed
has none. -/
def snapshotNames (w : World) (directory : String) : Except Failure (List String) :=
  match w.files.list directory with
  | .error .zeroCharacter => .error (.file directory .zeroCharacter)
  | .error _ => .ok []
  | .ok names => .ok (names.filter fun name =>
      isSnapshotName name && w.files.isFile (Path.join directory name))

def vanish (files : FileTree) (directory : String) (names : List String) : FileTree :=
  names.foldl (fun files name =>
    ((files.remove (Path.join directory name)).toOption).getD files) files

def purgeAt (w : World) (d : Disturbance) (application : String) (millis days : Int) :
    World × Except Failure Nat :=
  let directory := w.settings.directoryOf application
  match w.snapshotNames directory with
  | .error failure => (w, .error failure)
  | .ok names =>
    let files := vanish w.files directory (names.filter d.vanishing.contains)
    let cutoff := Retention.cutoff millis days
    let swept := names.foldl (Sweep.visit d.locked directory cutoff) { files }
    let summary :=
      if swept.deleted = 0 then []
      else [.snapshotsPurged application swept.deleted swept.retained]
    ({ w with files := swept.files }.record (swept.events ++ summary), .ok swept.retained)

/-- Deletes the obsolete snapshots of an application and tells the size of those that are left.
The present is given in seconds. -/
def purge (w : World) (d : Disturbance) (application : String) (now : Binary64) :
    World × Except Failure Nat :=
  match Retention.millis now with
  | .error fault => (w, .error (.time fault))
  | .ok millis =>
    match Retention.days w.settings.retention with
    | .error fault => (w, .error (.retention fault))
    | .ok days => w.purgeAt d application millis days

end World

end CounterArchive
