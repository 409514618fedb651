import CounterArchive.Proofs.Archive.Ledger
import CounterArchive.Proofs.Counter.Halt
import CounterArchive.Proofs.Json.Depth

/-! Which snapshots are reported as damaged. Reading does so for all that it cannot make a counter
of, with the exception of documents that nest too deep and of those with a reserved name. -/
namespace CounterArchive

namespace Snapshot

variable {nesting : Nat} {bytes : List UInt8} {text : List Char}

def text? (bytes : List UInt8) : Option (List Char) :=
  (Gzip.decompress bytes).toOption.bind fun content => (Utf8.decode content).toOption

/-- The document in the snapshot nests deeper than is allowed, or there is a reserved name in it. -/
inductive Escapes (nesting : Nat) (bytes : List UInt8) : Prop where
  | tooDeep {text : List Char} (content : text? bytes = some text)
      (noMark : text.head? ≠ some (Char.ofNat 0xFEFF))
      (deep : nesting < Json.nesting (limits nesting) (Json.skipBlanks text))
  | reserved {text : List Char} {value : Json} {name : Json.ReservedName}
      (content : text? bytes = some text) (read : Json.read (limits nesting) text = .ok value)
      (named : Counter.reserved? value = some name)

theorem decode_of_text? (now : Option DateTime) (content : text? bytes = some text) :
    decode nesting now bytes = decodeText nesting now text := by
  unfold text? at content
  unfold decode
  split
  · rename_i damaged
    rw [damaged] at content
    cases content
  · rename_i inner opened
    rw [opened] at content
    change (Utf8.decode inner).toOption = some text at content
    split
    · rename_i damaged
      rw [damaged] at content
      cases content
    · rename_i decoded
      rw [decoded] at content
      cases content
      rfl

theorem decode_of_noText (now : Option DateTime) (none : text? bytes = none) :
    ∃ damage, decode nesting now bytes = .error (.damaged damage) := by
  unfold text? at none
  unfold decode
  split
  · exact ⟨_, rfl⟩
  · rename_i inner opened
    rw [opened] at none
    change (Utf8.decode inner).toOption = .none at none
    split
    · exact ⟨_, rfl⟩
    · rename_i decoded
      rw [decoded] at none
      cases none

theorem text?_of_decompress (content : Gzip.decompress bytes = .ok (Utf8.encode text)) :
    text? bytes = some text := by
  rw [text?, content]
  change (Utf8.decode (Utf8.encode text)).toOption = some text
  rw [Utf8.decode_encode]
  rfl

theorem text?_compress (d : Gzip.Deflater) (stamp : UInt32) (text : List Char) :
    text? (Gzip.compress d stamp [] (Utf8.encode text)) = some text :=
  text?_of_decompress (Gzip.decompress_compress d stamp (by simp) _)

/-- Compressed files begin with another byte than texts of objects. -/
theorem text?_uncompressed {first : UInt8} {rest : List UInt8} (other : first ≠ 0x1F) :
    text? (first :: rest) = none := by
  have failed : Gzip.decompressOnto #[] (first :: rest) =
      .error (.notGzip ((first :: rest).take 2)) := by
    rw [Gzip.decompressOnto.eq_def]
    split
    · rename_i same
      exact absurd (List.cons.inj same).1 other
    · rename_i empty
      cases empty
    · rfl
  rw [text?, Gzip.decompress, failed]
  rfl

theorem decodeText_of_value (now : Option DateTime) {value : Json}
    (read : Json.read (limits nesting) text = .ok value) :
    decodeText nesting now text = (Counter.check now value).toExcept.mapError ofRefusal := by
  rw [decodeText, read]
  rfl

/-- What becomes of a document with a present, when it is read. -/
theorem decodeText_reserved (now : DateTime) {value : Json} {name : Json.ReservedName}
    (read : Json.read (limits nesting) text = .ok value)
    (named : Counter.reserved? value = some name) :
    decodeText nesting (some now) text = .error (.halted (.reserved name)) := by
  have halt := Counter.halt?_check now value
  rw [named] at halt
  rw [decodeText_of_value (some now) read]
  cases checked : Counter.check (some now) value with
  | halted cause =>
    rw [checked] at halt
    cases halt
    rfl
  | _ =>
    rw [checked] at halt
    cases halt

theorem decodeText_unreserved (now : DateTime) {value : Json}
    (read : Json.read (limits nesting) text = .ok value)
    (unnamed : Counter.reserved? value = none) :
    (∃ c, decodeText nesting (some now) text = .ok c) ∨
      ∃ damage, decodeText nesting (some now) text = .error (.damaged damage) := by
  have halt := Counter.halt?_check now value
  rw [unnamed] at halt
  rw [decodeText_of_value (some now) read]
  cases checked : Counter.check (some now) value with
  | valid c => exact .inl ⟨c, rfl⟩
  | invalid issues => exact .inr ⟨_, rfl⟩
  | halted cause =>
    rw [checked] at halt
    cases halt

theorem decode_of_escapes (now : DateTime) (escapes : Escapes nesting bytes) :
    (∃ container, decode nesting (some now) bytes = .error (.tooDeep container)) ∨
      ∃ name, decode nesting (some now) bytes = .error (.halted (.reserved name)) := by
  cases escapes with
  | tooDeep content noMark deep =>
    left
    obtain ⟨container, read⟩ :=
      Json.isTooDeep_iff.mp ((Json.isTooDeep_read_iff (limits nesting) _).mpr ⟨noMark, deep⟩)
    refine ⟨container, ?_⟩
    rw [decode_of_text? _ content, decodeText, read]
    rfl
  | @reserved text value name content read named =>
    right
    refine ⟨name, ?_⟩
    rw [decode_of_text? _ content, decodeText_reserved now read named]

theorem decode_of_not_escapes (now : DateTime) (kept : ¬ Escapes nesting bytes) :
    (∃ c, decode nesting (some now) bytes = .ok c) ∨
      ∃ damage, decode nesting (some now) bytes = .error (.damaged damage) := by
  cases content : text? bytes with
  | none => exact .inr (decode_of_noText _ content)
  | some text =>
    rw [decode_of_text? _ content]
    cases read : Json.read (limits nesting) text with
    | error failure =>
      right
      have fine : failure.isTooDeep = false := by
        by_contra deep
        have read := (Json.isTooDeep_read_iff (limits nesting) text).mp
          (by rw [read]; exact Bool.eq_true_of_not_eq_false deep)
        exact kept (.tooDeep content read.1 read.2)
      rw [decodeText, read]
      cases failure with
      | malformed flaw rest => exact ⟨_, rfl⟩
      | tooManyDigits digits => exact ⟨_, rfl⟩
      | tooDeep container => cases fine
    | ok value =>
      cases named : Counter.reserved? value with
      | none => exact decodeText_unreserved now read named
      | some name => exact absurd (.reserved content read named) kept

end Snapshot

namespace World

variable {w : World} {application stored : String} {file : File}

theorem read_of_file (enabled : w.disabled = false)
    (found : w.files.file? (w.settings.snapshotPath application stored) = .ok file) :
    w.read application stored =
      match Snapshot.decode w.host.nesting w.clock.now? file.content with
      | .ok c => .ok (some c)
      | .error (.damaged damage) =>
        .error (.damagedSnapshot (w.settings.snapshotPath application stored) damage)
      | .error (.tooDeep container) => .error (.tooDeep container)
      | .error (.halted cause) => .error (.ofHalt cause) := by
  have present := FileTree.isPresent_of_file? found
  rw [read]
  simp only [enabled, present, Bool.not_true, Bool.or_false, readSnapshot, found]
  rcases Snapshot.decode w.host.nesting w.clock.now? file.content with (damage | container | cause) | c
  all_goals rfl

/-- Whether a read has given a counter or has reported that the snapshot is damaged. -/
def Reported (path : String) (result : Except Failure (Option Counter)) : Prop :=
  (∃ c, result = .ok (some c)) ∨ ∃ damage, result = .error (.damagedSnapshot path damage)

theorem not_reported_tooDeep (path : String) (container : Json.Container) :
    ¬ Reported path (.error (.tooDeep container)) := by
  simp [Reported]

theorem not_reported_reserved (path : String) (name : Json.ReservedName) :
    ¬ Reported path (.error (.reservedName name)) := by
  simp [Reported]

theorem failed_of_escapes {now : DateTime} (dated : w.clock.now? = some now)
    (enabled : w.disabled = false)
    (found : w.files.file? (w.settings.snapshotPath application stored) = .ok file)
    (escapes : Snapshot.Escapes w.host.nesting file.content) :
    (∃ container, w.read application stored = .error (.tooDeep container)) ∨
      ∃ name, w.read application stored = .error (.reservedName name) := by
  rw [read_of_file enabled found, dated]
  rcases Snapshot.decode_of_escapes now escapes with ⟨container, failed⟩ | ⟨name, failed⟩
  · rw [failed]
    exact .inl ⟨container, rfl⟩
  · rw [failed]
    exact .inr ⟨name, rfl⟩

theorem not_reported_of_escapes {now : DateTime} (dated : w.clock.now? = some now)
    (enabled : w.disabled = false)
    (found : w.files.file? (w.settings.snapshotPath application stored) = .ok file)
    (escapes : Snapshot.Escapes w.host.nesting file.content) :
    ¬ Reported (w.settings.snapshotPath application stored) (w.read application stored) := by
  rcases failed_of_escapes dated enabled found escapes with ⟨container, failed⟩ | ⟨name, failed⟩
  · rw [failed]
    exact not_reported_tooDeep _ container
  · rw [failed]
    exact not_reported_reserved _ name

theorem reported_of_not_escapes {now : DateTime} (dated : w.clock.now? = some now)
    (enabled : w.disabled = false)
    (found : w.files.file? (w.settings.snapshotPath application stored) = .ok file)
    (kept : ¬ Snapshot.Escapes w.host.nesting file.content) :
    Reported (w.settings.snapshotPath application stored) (w.read application stored) := by
  rw [read_of_file enabled found, dated]
  rcases Snapshot.decode_of_not_escapes now kept with ⟨c, read⟩ | ⟨damage, failed⟩
  · rw [read]
    exact .inl ⟨c, rfl⟩
  · rw [failed]
    exact .inr ⟨damage, rfl⟩

/-- A snapshot file of any content is read as a counter or reported as damaged, just unless the
document in it nests too deep or has a reserved name. Then another failure is reported. In no case
does anything change. -/
theorem read_reports_damage_iff {now : DateTime} (dated : w.clock.now? = some now)
    (enabled : w.disabled = false)
    (found : w.files.file? (w.settings.snapshotPath application stored) = .ok file) :
    (w.operate (.read application stored)).1 = w ∧
    (Reported (w.settings.snapshotPath application stored) (w.read application stored) ↔
      ¬ Snapshot.Escapes w.host.nesting file.content) ∧
    (Snapshot.Escapes w.host.nesting file.content →
      (∃ container, w.read application stored = .error (.tooDeep container)) ∨
        ∃ name, w.read application stored = .error (.reservedName name)) := by
  refine ⟨rfl, ⟨?_, reported_of_not_escapes dated enabled found⟩,
    failed_of_escapes dated enabled found⟩
  intro reported escapes
  exact not_reported_of_escapes dated enabled found escapes reported

/-- A snapshot of any content in a world that was just started. -/
theorem exists_files (file : File) : ∃ files : FileTree,
    files.file? (World.initial.settings.snapshotPath "shop" "http") = .ok file := by
  have stock := bare_initial.stocked
  obtain ⟨files, -, stockAfter, listed⟩ := stock.ensureDirectories plain_shop (Nat.le_refl 2)
  have located := stockAfter.locate_snapshotPath plain_shop plain_http listed
  have free := (stockAfter.stored "shop" "http" plain_shop plain_http).notDirectory
  exact ⟨_, FileTree.file?_write (FileTree.write_of_locate file located free)⟩

/-- A document that is not compressed is damaged. -/
theorem read_reports_damage_iff_uncompressed : ∃ w : World,
    w.files.file? (w.settings.snapshotPath "shop" "http") =
      .ok ⟨Utf8.encode Counter.visited.text, 0⟩ ∧
      World.Reported (w.settings.snapshotPath "shop" "http") (w.read "shop" "http") := by
  obtain ⟨files, found⟩ := exists_files ⟨Utf8.encode Counter.visited.text, 0⟩
  have noText : Snapshot.text? (Utf8.encode Counter.visited.text) = none := by
    simp only [Counter.text, Counter.toJson, Json.text, List.cons_append]
    exact Snapshot.text?_uncompressed (by decide)
  have kept : ¬ Snapshot.Escapes World.initial.host.nesting
      (Utf8.encode Counter.visited.text) := by
    intro escapes
    cases escapes with
    | tooDeep content =>
      rw [noText] at content
      cases content
    | reserved content =>
      rw [noText] at content
      cases content
  obtain ⟨now, dated⟩ := dated_initial
  refine ⟨{ World.initial with files }, found, ?_⟩
  exact (read_reports_damage_iff (w := { World.initial with files }) dated rfl found).2.1.mpr kept

end World

def Json.reserved : Json :=
  .object [("name", .string "http"), ("application", .string "shop"),
    ("requests", .object [("GET /cart", .object [("name", .string "GET /cart"), ("cls", .int 1)])])]

theorem Json.legible_reserved {depth : Nat} : Json.Legible (depth + 3) Json.reserved := by
  have request : Json.Legible (depth + 1)
      (.object [("name", .string "GET /cart"), ("cls", .int 1)]) := by
    apply Legible.object (by decide)
    intro field listed
    simp only [List.mem_cons, List.not_mem_nil, or_false] at listed
    rcases listed with rfl | rfl
    · exact .string _
    · exact .int 1
  have requests : Json.Legible (depth + 2)
      (.object [("GET /cart", .object [("name", .string "GET /cart"), ("cls", .int 1)])]) := by
    apply Legible.object (by decide)
    intro field listed
    simp only [List.mem_cons, List.not_mem_nil, or_false] at listed
    rw [listed]
    exact request
  apply Legible.object (by decide)
  intro field listed
  simp only [List.mem_cons, List.not_mem_nil, or_false] at listed
  rcases listed with rfl | rfl | rfl
  · exact .string _
  · exact .string _
  · exact requests

theorem Snapshot.escapes_reserved {nesting : Nat} (room : 3 ≤ nesting) {bytes : List UInt8}
    (content : text? bytes = some Json.reserved.text) : Snapshot.Escapes nesting bytes := by
  have integers : Json.reserved.integers = [1] := rfl
  have fits : [1].find? (limits nesting).refuses = none := by
    apply find?_refuses_of_fits
    intro n listed
    rw [List.mem_singleton.mp listed]
    exact fitsDigits_of_small (by decide)
  obtain ⟨deeper, rfl⟩ := Nat.exists_eq_add_of_le' room
  have read : Json.read (limits (deeper + 3)) Json.reserved.text = .ok Json.reserved := by
    rw [Json.read_text Json.legible_reserved, integers, fits]
  have named : Counter.reserved? Json.reserved = some .kind := rfl
  exact .reserved content read named

/-- Not every snapshot that cannot be read is reported as damaged. -/
theorem not_read_reports_damage :
    ¬ ∀ (w : World) (application stored : String) (file : File), w.clock.now? ≠ none →
      w.disabled = false →
      w.files.file? (w.settings.snapshotPath application stored) = .ok file →
      World.Reported (w.settings.snapshotPath application stored) (w.read application stored) := by
  intro claim
  obtain ⟨files, found⟩ :=
    World.exists_files ⟨Gzip.compress .stored 0 [] (Utf8.encode Json.reserved.text), 0⟩
  obtain ⟨now, dated⟩ := World.dated_initial
  let w : World := { World.initial with files }
  have escapes := Snapshot.escapes_reserved w.host.roomForDocument
    (Snapshot.text?_compress .stored 0 Json.reserved.text)
  refine World.not_reported_of_escapes (w := w) dated rfl found escapes
    (claim w "shop" "http" _ ?_ rfl found)
  exact Option.ne_none_iff_exists'.mpr ⟨now, dated⟩

end CounterArchive
