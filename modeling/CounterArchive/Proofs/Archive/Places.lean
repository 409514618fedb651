import CounterArchive.FileTree.Basic
import CounterArchive.Proofs.FileTree.Path
import CounterArchive.Settings

/-! Where the snapshots of an archive lie that is in its default place. Names are plain when they
make up one name of a path each, and all paths are short enough then. -/
namespace CounterArchive

open CounterArchive.Path

structure NameWithin (bytes : Nat) (name : String) : Prop where
  noSlash : '/' ∉ name.toList
  noZero : '\x00' ∉ name.toList
  short : Utf8.size name.toList ≤ bytes

structure PlainApplication (name : String) : Prop extends NameWithin FileTree.nameLimit name where
  present : name ≠ ""
  notHere : name ≠ "."
  notAbove : name ≠ ".."

/-- A name that a file can have when the suffix of snapshots is put behind it. -/
abbrev PlainStored (name : String) : Prop := NameWithin 248 name

/-- The archive lies in its default place, the directory for temporary files, whose path is
absolute and leaves room for the longest names. -/
structure Settings.InDefaultPlace (s : Settings) : Prop where
  absolute : isAbsolute s.temporary = true
  noZero : '\x00' ∉ s.temporary.toList
  short : Utf8.size s.temporary.toList + 525 ≤ FileTree.pathLimit
  storage : s.storage = join s.temporary Settings.defaultName

structure Sound (path : String) : Prop where
  noZero : '\x00' ∉ path.toList
  short : Utf8.size path.toList ≤ FileTree.pathLimit

theorem Sound.of_append {path other : String} {rest : List Char} (sound : Sound other)
    (begins : other.toList = path.toList ++ rest) : Sound path := by
  obtain ⟨noZero, short⟩ := sound
  rw [begins] at noZero short
  rw [size_append] at short
  exact ⟨fun zero => noZero (List.mem_append_left _ zero), by omega⟩

theorem Sound.directoryOf_join {directory name : String} (sound : Sound (join directory name))
    (noSlash : '/' ∉ name.toList) (present : directory ≠ "") :
    Sound (directoryOf (join directory name)) := by
  obtain ⟨rest, begins, -⟩ := directoryOf_join_begins noSlash present
  exact sound.of_append begins

/-- A directory is not refused where a name in it is not. -/
theorem Sound.of_join {directory name : String} (noSlash : '/' ∉ name.toList)
    (sound : Sound (join directory name)) : Sound directory := by
  by_cases present : directory = ""
  · subst present
    constructor <;> decide
  · obtain ⟨front, text, -, same⟩ := toList_join (isAbsolute_of_notMem noSlash) present
    rcases same with whole | closed
    · have begins : (join directory name).toList = directory.toList ++ '/' :: name.toList := by
        rw [text, whole]
      exact sound.of_append begins
    · have begins : (join directory name).toList = directory.toList ++ name.toList := by
        rw [text, closed, List.append_assoc, List.singleton_append]
      exact sound.of_append begins

namespace PlainStored

variable {stored : String}

theorem toList_snapshotName (stored : String) :
    (stored ++ Settings.snapshotSuffix).toList = stored.toList ++ ".ser.gz".toList :=
  String.toList_append

/-- By its ending alone the name of a snapshot is longer than a dot, or two of them. -/
theorem snapshotName_ne (stored : String) {short : String} (few : short.toList.length ≤ 2) :
    stored ++ Settings.snapshotSuffix ≠ short := by
  rintro rfl
  have : ".ser.gz".toList.length = 7 := by decide
  rw [toList_snapshotName, List.length_append] at few
  omega

theorem noSlash_snapshotName (noSlash : '/' ∉ stored.toList) :
    '/' ∉ (stored ++ Settings.snapshotSuffix).toList := by
  rw [toList_snapshotName, List.mem_append, not_or]
  exact ⟨noSlash, by decide⟩

theorem plain_snapshotName (plain : PlainStored stored) :
    PlainApplication (stored ++ Settings.snapshotSuffix) := by
  have text := toList_snapshotName stored
  constructor
  · constructor
    · exact noSlash_snapshotName plain.noSlash
    · rw [text, List.mem_append, not_or]
      exact ⟨plain.noZero, by decide⟩
    · have : Utf8.size ".ser.gz".toList = 7 := by decide
      have short := plain.short
      have limit : FileTree.nameLimit = 255 := rfl
      rw [text, size_append]
      omega
  all_goals exact snapshotName_ne stored (by decide)

end PlainStored

namespace Settings.InDefaultPlace

variable {s : Settings} {application stored : String}

theorem present (place : s.InDefaultPlace) : s.temporary ≠ "" :=
  ne_empty_of_isAbsolute place.absolute

theorem absolute_storage (place : s.InDefaultPlace) : isAbsolute s.storage = true := by
  rw [place.storage]
  exact isAbsolute_join _ place.absolute

theorem plain_defaultName : PlainApplication defaultName := by
  constructor
  · constructor
    all_goals decide
  all_goals decide

theorem directoryOf_eq (place : s.InDefaultPlace) (application : String) :
    s.directoryOf application = join s.storage application := by
  rw [Settings.directoryOf]
  simp only [place.absolute_storage, if_true]

theorem names_storage (place : s.InDefaultPlace) :
    names s.storage = names s.temporary ++ [defaultName] := by
  have relative := isAbsolute_of_notMem plain_defaultName.noSlash
  rw [place.storage, names_join relative place.present,
    names_of_notMem plain_defaultName.noSlash plain_defaultName.present]

theorem names_directoryOf (place : s.InDefaultPlace) (plain : PlainApplication application) :
    names (s.directoryOf application) = names s.storage ++ [application] := by
  have relative := isAbsolute_of_notMem plain.noSlash
  have present := ne_empty_of_isAbsolute place.absolute_storage
  rw [place.directoryOf_eq, names_join relative present,
    names_of_notMem plain.noSlash plain.present]

theorem directoryOf_present (place : s.InDefaultPlace) (application : String) :
    s.directoryOf application ≠ "" := by
  rw [place.directoryOf_eq]
  exact ne_empty_of_isAbsolute (isAbsolute_join application place.absolute_storage)

theorem names_snapshotPath (place : s.InDefaultPlace) (plainStored : PlainStored stored) :
    names (s.snapshotPath application stored) =
      names (s.directoryOf application) ++ [stored ++ snapshotSuffix] := by
  have name := plainStored.plain_snapshotName
  have relative := isAbsolute_of_notMem name.noSlash
  rw [snapshotPath, names_join relative (place.directoryOf_present application),
    names_of_notMem name.noSlash name.present]

theorem sound_snapshotPath (place : s.InDefaultPlace) (plain : PlainApplication application)
    (plainStored : PlainStored stored) : Sound (s.snapshotPath application stored) := by
  have name := plainStored.plain_snapshotName
  rw [snapshotPath, place.directoryOf_eq, place.storage]
  constructor
  · intro zero
    rcases mem_join zero with zero | slash | zero
    · rcases mem_join zero with zero | slash | zero
      · rcases mem_join zero with zero | slash | zero
        · exact place.noZero zero
        · cases slash
        · exact plain_defaultName.noZero zero
      · cases slash
      · exact plain.noZero zero
    · cases slash
    · exact name.noZero zero
  · have whole := size_join_le (join (join s.temporary defaultName) application)
      (stored ++ snapshotSuffix)
    have directory := size_join_le (join s.temporary defaultName) application
    have archive := size_join_le s.temporary defaultName
    have default : Utf8.size defaultName.toList = 12 := by decide
    have first := plain.short
    have last := name.short
    have room := place.short
    have limit : FileTree.nameLimit = 255 := rfl
    omega

/-- The directory of a snapshot is that of its application. -/
theorem directoryOf_snapshotPath (place : s.InDefaultPlace) (plain : PlainApplication application)
    (plainStored : PlainStored stored) :
    Path.directoryOf (s.snapshotPath application stored) = s.directoryOf application := by
  have name := plainStored.plain_snapshotName
  refine directoryOf_join name.noSlash (place.directoryOf_present application) ?_
  rw [place.directoryOf_eq]
  exact getLast?_join plain.noSlash plain.present (ne_empty_of_isAbsolute place.absolute_storage)

/-- The directory of an application is in the archive. -/
theorem directoryOf_directoryOf (place : s.InDefaultPlace) (plain : PlainApplication application) :
    Path.directoryOf (s.directoryOf application) = s.storage := by
  rw [place.directoryOf_eq]
  refine directoryOf_join plain.noSlash (ne_empty_of_isAbsolute place.absolute_storage) ?_
  rw [place.storage]
  exact getLast?_join plain_defaultName.noSlash plain_defaultName.present place.present

theorem sound_directoryOf (place : s.InDefaultPlace) (plain : PlainApplication application) :
    Sound (s.directoryOf application) := by
  have plainStored : PlainStored "" := by constructor <;> decide
  have name := plainStored.plain_snapshotName
  have path := place.sound_snapshotPath plain plainStored
  rw [← place.directoryOf_snapshotPath plain plainStored]
  exact path.directoryOf_join name.noSlash (place.directoryOf_present application)

theorem sound_storage (place : s.InDefaultPlace) : Sound s.storage := by
  have path := place.sound_directoryOf plain_defaultName
  rw [← place.directoryOf_directoryOf plain_defaultName]
  rw [place.directoryOf_eq] at path ⊢
  exact path.directoryOf_join plain_defaultName.noSlash
    (ne_empty_of_isAbsolute place.absolute_storage)

theorem sound_directoryOf_storage (place : s.InDefaultPlace) :
    Sound (Path.directoryOf s.storage) := by
  have path := place.sound_storage
  rw [place.storage] at path ⊢
  exact path.directoryOf_join plain_defaultName.noSlash place.present

/-- The archive is in a directory that is named like the one for temporary files. -/
theorem names_directoryOf_storage (place : s.InDefaultPlace) :
    names (Path.directoryOf s.storage) = names s.temporary := by
  rw [place.storage]
  exact names_directoryOf_join plain_defaultName.noSlash place.present

theorem sound_temporary (place : s.InDefaultPlace) : Sound s.temporary := by
  have short := place.short
  exact ⟨place.noZero, by omega⟩

end Settings.InDefaultPlace

end CounterArchive
