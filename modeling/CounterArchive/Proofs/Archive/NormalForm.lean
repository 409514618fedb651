import CounterArchive.Proofs.Archive.Damage
import CounterArchive.Proofs.Counter.Integers

/-! Snapshots that were written by others. Once such a snapshot has been read, the document of the
counter in it is its normal form: stored in its place, it is read as the same counter. -/
namespace CounterArchive

namespace FileTree

/-- A file can be replaced by any other. -/
theorem exists_write_of_file? {t : FileTree} {path : String} {old : File}
    (found : t.file? path = .ok old) (file : File) :
    ∃ u, t.write path file = .ok u ∧ u.file? path = .ok file := by
  obtain ⟨place, located, there⟩ := locate_of_file? found
  have written := write_of_locate file located (by simp [there])
  exact ⟨_, written, file?_write written⟩

end FileTree

namespace Snapshot

/-- What is decoded from a snapshot is decoded from its text. -/
theorem text?_of_decode {nesting : Nat} {now : Option DateTime} {bytes : List UInt8} {c : Counter}
    (decoded : decode nesting now bytes = .ok c) :
    ∃ text, text? bytes = some text ∧ decodeText nesting now text = .ok c := by
  cases content : text? bytes with
  | none =>
    obtain ⟨damage, failed⟩ := decode_of_noText now content
    rw [failed] at decoded
    cases decoded
  | some text =>
    rw [decode_of_text? now content] at decoded
    exact ⟨text, rfl, decoded⟩

/-- The document of a counter that was decoded is decoded as that counter, at any time. -/
theorem decode_again {nesting : Nat} (room : 3 ≤ nesting) {clock : Clock} {old bytes : List UInt8}
    {c : Counter} (decoded : decode nesting clock.now? old = .ok c)
    (stored : text? bytes = some c.text) (later : Option DateTime) :
    decode nesting later bytes = .ok c := by
  obtain ⟨text, -, read⟩ := text?_of_decode decoded
  rw [decode_of_text? later stored]
  exact decodeText_text later room (fitsDigits_of_decodeText read) (whole_of_decodeText read)

end Snapshot

namespace World

variable {w : World} {application stored : String} {c : Counter}

/-- A counter is read from a file at the path of the snapshot. -/
theorem file_of_read (read : w.read application stored = .ok (some c)) :
    w.disabled = false ∧ ∃ file,
      w.files.file? (w.settings.snapshotPath application stored) = .ok file ∧
        Snapshot.decode w.host.nesting w.clock.now? file.content = .ok c := by
  cases enabled : w.disabled with
  | true =>
    rw [read_disabled application stored enabled] at read
    cases read
  | false =>
    refine ⟨rfl, ?_⟩
    cases found : w.files.file? (w.settings.snapshotPath application stored) with
    | error fault =>
      simp only [World.read, readSnapshot, found] at read
      split at read <;> cases read
    | ok file =>
      refine ⟨file, rfl, ?_⟩
      rw [read_of_file enabled found] at read
      split at read
      · rename_i decoded
        cases read
        exact decoded
      all_goals cases read

/-- The document of a counter that was read takes the place of its snapshot: at any clock it is read
as the same counter, whose document is just what is stored. -/
theorem read_stored_again (read : w.read application stored = .ok (some c)) {bytes : List UInt8}
    (content : Gzip.decompress bytes = .ok (Utf8.encode c.text)) (modified : Int) :
    ∃ files, w.files.write (w.settings.snapshotPath application stored) ⟨bytes, modified⟩ =
        .ok files ∧
      ∀ clock, ∃ again, ({ w with files, clock } : World).read application stored =
        .ok (some again) ∧ again = c ∧
          Gzip.decompress bytes = .ok (Utf8.encode again.text) := by
  obtain ⟨enabled, old, found, decoded⟩ := file_of_read read
  obtain ⟨files, written, placed⟩ := FileTree.exists_write_of_file? found ⟨bytes, modified⟩
  refine ⟨files, written, ?_⟩
  intro clock
  refine ⟨c, ?_, rfl, content⟩
  rw [read_of_file (w := { w with files, clock }) enabled placed]
  have again := Snapshot.decode_again w.host.roomForDocument decoded
    (Snapshot.text?_of_decompress content) clock.now?
  simp only [again]

end World

/-- A document with loose spellings: a date alone, and numbers as a text and as a truth value. -/
def Json.loose : Json :=
  .object [("application", .string "shop"), ("name", .string "http"),
    ("start_date", .string "2024-02-29"),
    ("requests", .object [("GET /cart", .object [("name", .string "GET /cart"),
      ("hits", .string " +1_0.00 "), ("durations_sum", .bool true)])])]

theorem Json.legible_loose {depth : Nat} : Json.Legible (depth + 3) Json.loose := by
  have request : Json.Legible (depth + 1)
      (.object [("name", .string "GET /cart"), ("hits", .string " +1_0.00 "),
        ("durations_sum", .bool true)]) := by
    apply Legible.object (by decide)
    intro field listed
    simp only [List.mem_cons, List.not_mem_nil, or_false] at listed
    rcases listed with rfl | rfl | rfl
    · exact .string _
    · exact .string _
    · exact .bool true
  apply Legible.object (by decide)
  intro field listed
  simp only [List.mem_cons, List.not_mem_nil, or_false] at listed
  rcases listed with rfl | rfl | rfl | rfl
  · exact .string _
  · exact .string _
  · exact .string _
  · apply Legible.object (by decide)
    intro field listed
    rw [List.mem_singleton.mp listed]
    exact request

def Counter.loose : Counter :=
  { name := "http", application := "shop", storageName := none
    startDate := ⟨Counter.idle.startDate.date, .midnight, none⟩
    requests := Table.empty.insert "GET /cart" ⟨"GET /cart", 10, 1, 0⟩
    errors := [] }

theorem Snapshot.decodeText_loose {nesting : Nat} (room : 3 ≤ nesting) (now : Option DateTime) :
    decodeText nesting now Json.loose.text = .ok .loose := by
  obtain ⟨deeper, rfl⟩ := Nat.exists_eq_add_of_le' room
  have read : Json.read (limits (deeper + 3)) Json.loose.text = .ok Json.loose := by
    rw [Json.read_text Json.legible_loose]
    rfl
  have checked : Counter.check now Json.loose = .valid .loose := by
    cases now <;> rfl
  rw [decodeText_of_value now read, checked]
  rfl

theorem World.read_loose {w : World} {file : File} (enabled : w.disabled = false)
    (found : w.files.file? (w.settings.snapshotPath "shop" "http") = .ok file)
    (content : Snapshot.text? file.content = some Json.loose.text) :
    w.read "shop" "http" = .ok (some .loose) := by
  have decoded : Snapshot.decode w.host.nesting w.clock.now? file.content = .ok .loose := by
    rw [Snapshot.decode_of_text? _ content, Snapshot.decodeText_loose w.host.roomForDocument]
  rw [read_of_file enabled found]
  simp only [decoded]

/-- A snapshot with loose spellings is read, and so is the normal form in its place. -/
theorem World.read_stored_again_loose : ∃ (w : World) (files : FileTree),
    w.read "shop" "http" = .ok (some .loose) ∧
      w.files.write (w.settings.snapshotPath "shop" "http")
        ⟨Gzip.compress .stored 0 [] (Utf8.encode Counter.loose.text), 0⟩ = .ok files ∧
      ({ w with files, clock := .showing 1000000 } : World).read "shop" "http" =
        .ok (some .loose) := by
  obtain ⟨before, found⟩ :=
    exists_files ⟨Gzip.compress .stored 0 [] (Utf8.encode Json.loose.text), 0⟩
  have read := read_loose (w := { World.initial with files := before }) rfl found
    (Snapshot.text?_compress .stored 0 Json.loose.text)
  obtain ⟨files, written, again⟩ := read_stored_again read
    (Gzip.decompress_compress .stored 0 List.not_mem_nil (Utf8.encode Counter.loose.text)) 0
  obtain ⟨c, readAgain, rfl, -⟩ := again (.showing 1000000)
  exact ⟨_, files, read, written, readAgain⟩

end CounterArchive
