import CounterArchive.FileTree.Path
import CounterArchive.Table
import CounterArchive.Text.Quoted
import CounterArchive.Text.Utf8

/-! Trees of directories and files. A place in the tree is given by names, the innermost first;
without any it is the root, which is a directory. What lies below something that is no directory
cannot be reached. -/
namespace CounterArchive

/-- A place in a tree. By its depth it is told from most other places before any names are
compared. -/
structure Location where
  depth : Nat
  names : List String
  depth_eq : depth = names.length
deriving DecidableEq

namespace Location

theorem ext {a b : Location} (h : a.names = b.names) : a = b := by
  obtain ⟨_, _, rfl⟩ := a
  obtain ⟨_, _, rfl⟩ := b
  cases h
  rfl

def root : Location := ⟨0, [], rfl⟩

def child (place : Location) (name : String) : Location :=
  ⟨place.depth + 1, name :: place.names, by simp [place.depth_eq]⟩

/-- The directory that a place is in. That of the root is the root itself. -/
def parent (place : Location) : Location :=
  ⟨place.depth - 1, place.names.tail, by simp [place.depth_eq]⟩

end Location

structure File where
  content : List UInt8
  /-- The time of the last change, in nanoseconds from the beginning of 1970. -/
  modified : Int
deriving DecidableEq

inductive Node where
  | directory
  | file (file : File)
deriving DecidableEq

structure FileTree where
  nodes : Table Location Node
deriving DecidableEq

namespace FileTree

inductive Fault where
  | zeroCharacter
  | notFound
  | alreadyExists
  | notDirectory
  | isDirectory
  | nameTooLong
  /-- More directories are missing above one another than can be made. -/
  | tooDeep
deriving DecidableEq

def Fault.message (path : String) : Fault → String
  | .zeroCharacter => "embedded null byte"
  | .notFound => "[Errno 2] No such file or directory: " ++ Text.quoted path
  | .alreadyExists => "[Errno 17] File exists: " ++ Text.quoted path
  | .notDirectory => "[Errno 20] Not a directory: " ++ Text.quoted path
  | .isDirectory => "[Errno 21] Is a directory: " ++ Text.quoted path
  | .nameTooLong => "[Errno 36] File name too long: " ++ Text.quoted path
  | .tooDeep => "maximum recursion depth exceeded"

/-- Whether a fault was found in the files, and not before they were asked. -/
def Fault.isInFiles : Fault → Bool
  | .zeroCharacter => false
  | .tooDeep => false
  | _ => true

def empty : FileTree := ⟨.empty⟩

def nameLimit : Nat := 255

/-- The most bytes of a path, all of its slashes counted. -/
def pathLimit : Nat := 4095

def nodeAt? (t : FileTree) (place : Location) : Option Node :=
  if place = .root then some .directory else t.nodes.get? place

/-- Goes from a directory to a name in it, which need not be there. -/
def enter (t : FileTree) (place : Location) (name : String) : Except Fault Location :=
  match t.nodeAt? place with
  | none => .error .notFound
  | some (.file _) => .error .notDirectory
  | some .directory =>
    if name = "." then .ok place
    else if name = ".." then .ok place.parent
    else if nameLimit < Utf8.size name.toList then .error .nameTooLong
    else .ok (place.child name)

/-- The place that a path leads to. All names but the last have to be there. -/
def locate (t : FileTree) (path : String) : Except Fault Location :=
  if path.toList.contains '\x00' then .error .zeroCharacter
  else if pathLimit < Utf8.size path.toList then .error .nameTooLong
  else (Path.names path).foldlM t.enter .root

def node? (t : FileTree) (path : String) : Except Fault Node := do
  match t.nodeAt? (← t.locate path) with
  | none => throw .notFound
  | some node => return node

/-- Whether there is anything at a path. A path that is faulty leads nowhere. -/
def isPresent (t : FileTree) (path : String) : Bool := (t.node? path).toOption.isSome

def isDirectory (t : FileTree) (path : String) : Bool :=
  (t.node? path).toOption = some .directory

def isFile (t : FileTree) (path : String) : Bool :=
  (t.node? path).toOption.any (· ≠ .directory)

def file? (t : FileTree) (path : String) : Except Fault File := do
  match ← t.node? path with
  | .directory => throw .isDirectory
  | .file file => return file

def namesIn (t : FileTree) (place : Location) : List String :=
  (t.nodes.keys.filterMap fun location =>
    if location.parent = place then location.names.head? else none).mergeSort
      fun a b => !decide (b < a)

def list (t : FileTree) (path : String) : Except Fault (List String) := do
  match ← t.node? path with
  | .directory => return t.namesIn (← t.locate path)
  | .file _ => throw .notDirectory

/-- Puts a file at a path, in the place of another one that is there. -/
def write (t : FileTree) (path : String) (file : File) : Except Fault FileTree := do
  let place ← t.locate path
  match t.nodeAt? place with
  | some .directory => throw .isDirectory
  | _ => return ⟨t.nodes.insert place (.file file)⟩

def remove (t : FileTree) (path : String) : Except Fault FileTree := do
  let place ← t.locate path
  match t.nodeAt? place with
  | none => throw .notFound
  | some .directory => throw .isDirectory
  | some (.file _) => return ⟨t.nodes.erase place⟩

def makeDirectory (t : FileTree) (path : String) : Except Fault FileTree := do
  let place ← t.locate path
  match t.nodeAt? place with
  | none => return ⟨t.nodes.insert place .directory⟩
  | some _ => throw .alreadyExists

/-- Makes a directory, unless it is there already. What failed, if anything, is told. -/
def ensureDirectory (t : FileTree) (path : String) : FileTree × Option Fault :=
  match t.makeDirectory path with
  | .ok t => (t, none)
  | .error fault => (t, if t.isDirectory path then none else some fault)

/-- How many directories are to be made for a path: its own one, which may be there already, and
above it all that are not there. -/
def countMissing (t : FileTree) (path : String) : Nat :=
  let parent := Path.directoryOf path
  if _ : parent ≠ "" ∧ parent.length < path.length ∧ !t.isPresent parent then
    t.countMissing parent + 1
  else 1
termination_by path.length
decreasing_by
  rename_i smaller
  exact smaller.2.1

/-- Makes a directory and all that lead to it. What has been made remains when a later one
fails. -/
def makeDirectories (t : FileTree) (path : String) : FileTree × Option Fault :=
  let parent := Path.directoryOf path
  if _ : parent ≠ "" ∧ parent.length < path.length ∧ !t.isPresent parent then
    let (t, failed) := t.makeDirectories parent
    if failed.any (· ≠ .alreadyExists) then (t, failed)
    else if Path.lastName path = "." then (t, none)
    else t.ensureDirectory path
  else t.ensureDirectory path
termination_by path.length
decreasing_by
  rename_i smaller
  exact smaller.2.1

/-- Makes a directory and all that lead to it, unless there are more of them than can be made at
once. -/
def ensureDirectories (t : FileTree) (most : Nat) (path : String) : FileTree × Option Fault :=
  if most < t.countMissing path then (t, some .tooDeep) else t.makeDirectories path

end FileTree

end CounterArchive
