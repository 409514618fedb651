import CounterArchive.Proofs.Archive.Bare
import CounterArchive.Proofs.Archive.Changes
import CounterArchive.Proofs.Snapshot.Codec
import CounterArchive.Snapshot.Store

/-! Writing puts an entry on the shelf, and reading looks for one. -/
namespace CounterArchive

open Archive

/-- What operations on the archive leave alone: all but the files, the log and the metrics. -/
structure World.SameBesidesFiles (w v : World) : Prop where
  host : v.host = w.host
  clock : v.clock = w.clock
  settings : v.settings = w.settings
  disabled : v.disabled = w.disabled
  counters : v.counters = w.counters
  collectors : v.collectors = w.collectors
  processMetrics : v.processMetrics = w.processMetrics

theorem World.SameBesidesFiles.refl (w : World) : w.SameBesidesFiles w :=
  ⟨rfl, rfl, rfl, rfl, rfl, rfl, rfl⟩

theorem World.SameBesidesFiles.withFiles (w : World) (files : FileTree) :
    w.SameBesidesFiles { w with files } := ⟨rfl, rfl, rfl, rfl, rfl, rfl, rfl⟩

def Counter.Plain (c : Counter) : Prop := PlainApplication c.application ∧ PlainStored c.storedAs

theorem plain_shop : PlainApplication "shop" := by
  constructor
  · constructor
    all_goals decide
  all_goals decide

theorem plain_http : PlainStored "http" := by constructor <;> decide

theorem plain_visited : Counter.visited.Plain := ⟨plain_shop, plain_http⟩

theorem fitsDigits_visited : Counter.visited.FitsDigits := by
  have integers : Counter.visited.integers = [1, 12, 0] := by decide
  intro n listed
  rw [integers] at listed
  apply fitsDigits_of_small
  revert n
  decide

theorem whole_visited : Counter.visited.Whole := by decide

namespace World

variable {w : World} {base : Location} {shelf : Shelf} {c : Counter}

def entryOf (w : World) (c : Counter) : Entry := ⟨c, w.clock.micros * 1000⟩

theorem write_disabled (c : Counter) (disabled : w.disabled = true) :
    w.write c = (w, .ok none) := by
  rw [write]
  simp only [disabled, if_true]

theorem write_unused (stock : Stocked w.settings base w.files shelf) (plain : c.Plain)
    (unused : c.isUnused = true) (absent : shelf c.application c.storedAs = none) :
    w.write c = (w, .ok none) := by
  have missing := stock.isPresent_snapshotPath plain.1 plain.2
  rw [absent] at missing
  rw [write]
  simp only [unused, missing, Option.isSome_none, Bool.not_false, Bool.and_true, if_true, ite_self]

/-- What is written when there is room for the stamp. -/
theorem holds_snapshotBytes (stamps : w.clock.Stamps) (c : Counter) (path : String) :
    Snapshot.Holds (w.snapshotBytes c path) c := by
  rw [snapshotBytes, Clock.stamp?_of_stamps stamps]
  exact ⟨_, _, _, rfl⟩

theorem writeSnapshot_of_write {path : String} {files : FileTree} (stamps : w.clock.Stamps)
    (written : w.files.write path ⟨w.snapshotBytes c path, w.clock.micros * 1000⟩ = .ok files) :
    w.writeSnapshot c path =
      ({ w with files }.record [.snapshotWritten c.name path (Snapshot.content c).length],
        .ok (some (Snapshot.content c).length)) := by
  rw [writeSnapshot, written]
  exact if_pos stamps

theorem writeSnapshot_stocked (stock : Stocked w.settings base w.files shelf) (plain : c.Plain)
    (stamps : w.clock.Stamps)
    (listed : w.files.nodeAt? (directory base c.application) = some .directory) :
    ∃ v, w.writeSnapshot c (w.settings.snapshotPath c.application c.storedAs) =
        (v, .ok (some (Snapshot.content c).length)) ∧ w.SameBesidesFiles v ∧
      Stocked w.settings base v.files
        (shelf.set c.application c.storedAs (some (w.entryOf c))) := by
  have located := stock.locate_snapshotPath plain.1 plain.2 listed
  have other := (stock.stored c.application c.storedAs plain.1 plain.2).notDirectory
  have written := writeSnapshot_of_write (c := c) stamps
    (FileTree.write_of_locate _ located other)
  refine ⟨_, written, ⟨rfl, rfl, rfl, rfl, rfl, rfl, rfl⟩, ?_⟩
  have inFile : (w.entryOf c).InFile ⟨w.snapshotBytes c
      (w.settings.snapshotPath c.application c.storedAs), w.clock.micros * 1000⟩ :=
    ⟨holds_snapshotBytes stamps c _, rfl⟩
  refine stock.setEntry plain.1 plain.2 _ (fun _ => listed) (.kept inFile) ?_
  exact FileTree.nodeAt?_insert w.files _ (snapshot_ne base c.application c.storedAs)

/-- A counter that was used, or that has a snapshot already, is put on the shelf. -/
theorem write_stocked (stock : Stocked w.settings base w.files shelf) (plain : c.Plain)
    (enabled : w.disabled = false) (stamps : w.clock.Stamps)
    (wanted : c.isUnused = false ∨ shelf c.application c.storedAs ≠ none) :
    ∃ v, w.write c = (v, .ok (some (Snapshot.content c).length)) ∧ w.SameBesidesFiles v ∧
      Stocked w.settings base v.files
        (shelf.set c.application c.storedAs (some (w.entryOf c))) := by
  have place := stock.place
  have present := stock.isPresent_snapshotPath plain.1 plain.2
  have needed : ¬ (c.isUnused && !w.files.isPresent
      (w.settings.snapshotPath c.application c.storedAs)) = true := by
    rw [present]
    rcases wanted with used | kept
    · simp [used]
    · simp [Option.isSome_iff_ne_none.mpr kept]
  obtain ⟨files, made, stockFiles, listed⟩ := stock.ensureDirectories plain.1 w.host.roomForArchive
  obtain ⟨v, written, same, stockAfter⟩ :=
    writeSnapshot_stocked (w := { w with files }) stockFiles plain stamps listed
  refine ⟨v, ?_, ⟨same.host, same.clock, same.settings, same.disabled, same.counters,
    same.collectors, same.processMetrics⟩, stockAfter⟩
  have on : ¬ w.disabled = true := by
    rw [enabled]
    exact Bool.false_ne_true
  rw [write, if_neg on, if_neg needed, place.directoryOf_snapshotPath plain.1 plain.2, made]
  exact written

section Read

variable {application stored : String} {entry : Entry}

theorem read_disabled (application stored : String) (disabled : w.disabled = true) :
    w.read application stored = .ok none := by
  rw [read]
  simp only [disabled, Bool.true_or, if_true]

theorem read_absent (stock : Stocked w.settings base w.files shelf)
    (plain : PlainApplication application) (plainStored : PlainStored stored)
    (absent : shelf application stored = none) : w.read application stored = .ok none := by
  have missing := stock.isPresent_snapshotPath plain plainStored
  rw [absent] at missing
  rw [read]
  simp only [missing, Option.isSome_none, Bool.not_false, Bool.or_true, if_true]

theorem read_kept (stock : Stocked w.settings base w.files shelf)
    (plain : PlainApplication application) (plainStored : PlainStored stored)
    (enabled : w.disabled = false) (kept : shelf application stored = some entry) :
    w.read application stored =
      (w.readSnapshot (w.settings.snapshotPath application stored)).map some := by
  have present := stock.isPresent_snapshotPath plain plainStored
  rw [kept] at present
  rw [read]
  simp [present, enabled]

theorem readSnapshot_of_file {path : String} {file : File} (found : w.files.file? path = .ok file)
    (holds : Snapshot.Holds file.content c) :
    w.readSnapshot path =
      match Snapshot.decodeText w.host.nesting w.clock.now? c.text with
      | .ok counter => .ok counter
      | .error (.damaged damage) => .error (.damagedSnapshot path damage)
      | .error (.tooDeep container) => .error (.tooDeep container)
      | .error (.halted cause) => .error (.ofHalt cause) := by
  rw [readSnapshot, found]
  cases decoded : Snapshot.decodeText w.host.nesting w.clock.now? c.text with
  | ok counter => simp only [holds.decode_eq, decoded]
  | error fault => cases fault <;> simp only [holds.decode_eq, decoded]

/-- What is on the shelf is read if its numbers and the offsets of its dates can be. -/
theorem read_fitting (stock : Stocked w.settings base w.files shelf)
    (plain : PlainApplication application) (plainStored : PlainStored stored)
    (enabled : w.disabled = false) (kept : shelf application stored = some entry)
    (fits : entry.counter.FitsDigits) (whole : entry.counter.Whole) :
    w.read application stored = .ok (some entry.counter) := by
  obtain ⟨file, inFile, found⟩ := stock.file?_kept plain plainStored kept
  rw [read_kept stock plain plainStored enabled kept, readSnapshot_of_file found inFile.content,
    Snapshot.decodeText_text _ w.host.roomForDocument fits whole]
  rfl

theorem read_tooLong (stock : Stocked w.settings base w.files shelf)
    (plain : PlainApplication application) (plainStored : PlainStored stored)
    (enabled : w.disabled = false) (kept : shelf application stored = some entry)
    (tooLong : ¬ entry.counter.FitsDigits) :
    ∃ n ∈ entry.counter.integers, ¬ FitsDigits n ∧ w.read application stored =
      .error (.damagedSnapshot (w.settings.snapshotPath application stored)
        (.tooManyDigits (Json.digitCount n))) := by
  obtain ⟨file, inFile, found⟩ := stock.file?_kept plain plainStored kept
  obtain ⟨n, listed, misfit, damaged⟩ :=
    Snapshot.decodeText_tooLong w.clock.now? w.host.roomForDocument tooLong
  refine ⟨n, listed, misfit, ?_⟩
  rw [read_kept stock plain plainStored enabled kept, readSnapshot_of_file found inFile.content,
    damaged]
  rfl

end Read

end World

end CounterArchive
