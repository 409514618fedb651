import CounterArchive.Proofs.Counter.Document
import CounterArchive.Proofs.Gzip.RoundTrip
import CounterArchive.Proofs.Text.Utf8
import CounterArchive.Snapshot.Codec

/-! A counter comes back from its snapshot, unless a number in it is too long to be read. Of the
offsets of its dates only whole minutes are written. -/
namespace CounterArchive

open Numeral

/-- A whole number that is written with no more digits than are read. -/
def FitsDigits (n : Int) : Prop := n.natAbs < 10 ^ digitLimit

instance (n : Int) : Decidable (FitsDigits n) := inferInstanceAs (Decidable (_ < _))

theorem fitsDigits_of_small {n : Int} (small : n.natAbs < 1000) : FitsDigits n :=
  Nat.lt_of_lt_of_le small (Nat.pow_le_pow_right (show 0 < 10 by decide)
    (show 3 ≤ digitLimit by decide))

def Counter.FitsDigits (c : Counter) : Prop := ∀ n ∈ c.integers, CounterArchive.FitsDigits n

namespace Snapshot

theorem fitsDigits_iff (n : Int) : FitsDigits n ↔ Json.digitCount n ≤ digitLimit :=
  (length_digitList_le_iff (by omega) (by simp [digitLimit])).symm

variable {c : Counter} {nesting : Nat}

theorem refuses_eq (n : Int) :
    (limits nesting).refuses n = decide (digitLimit < Json.digitCount n) := rfl

theorem find?_refuses_of_fits {numbers : List Int} (fits : ∀ n ∈ numbers, FitsDigits n) :
    numbers.find? (limits nesting).refuses = none := by
  rw [List.find?_eq_none]
  intro n listed refused
  have short := (fitsDigits_iff n).mp (fits n listed)
  rw [refuses_eq, decide_eq_true_iff] at refused
  omega

/-- The name inside of a compressed file ends where it does. -/
theorem zero_notMem_innerName (path : String) : 0 ∉ innerName path := by
  intro listed
  unfold innerName at listed
  dsimp only at listed
  split at listed
  · rename_i inner
    obtain ⟨c, named, zero⟩ := List.mem_map.mp listed
    have allowed := List.all_eq_true.mp inner c (List.mem_of_mem_take named)
    simp only [isInner, Bool.and_eq_true, decide_eq_true_eq] at allowed
    have small : c.toNat % 256 = 0 := congrArg UInt8.toNat zero
    rw [Nat.mod_eq_of_lt allowed.2] at small
    exact allowed.1 (Char.toNat_inj.mp small)
  · cases listed

theorem read_document (c : Counter) (room : 3 ≤ nesting) :
    Json.read (limits nesting) c.text =
      match c.integers.find? (limits nesting).refuses with
      | none => .ok c.toJson
      | some n => .error (.tooManyDigits (Json.digitCount n)) := by
  obtain ⟨deeper, rfl⟩ := Nat.exists_eq_add_of_le' room
  rewrite [Counter.text, Json.read_text c.legible_toJson, Counter.integers_toJson]
  cases c.integers.find? (limits (deeper + 3)).refuses <;> rfl

/-- The bytes are a snapshot of the counter, whatever compresses it, and with any stamp and name. -/
def Holds (bytes : List UInt8) (c : Counter) : Prop := ∃ d stamp path, bytes = encode d stamp path c

theorem Holds.decompress_eq {bytes : List UInt8} (holds : Holds bytes c) :
    Gzip.decompress bytes = .ok (content c) := by
  obtain ⟨d, stamp, path, rfl⟩ := holds
  exact Gzip.decompress_compress d stamp (zero_notMem_innerName path) (content c)

theorem Holds.decode_eq {bytes : List UInt8} (holds : Holds bytes c) (now : Option DateTime) :
    decode nesting now bytes = decodeText nesting now c.text := by
  rw [decode, holds.decompress_eq]
  simp only [content, Utf8.decode_encode]

/-- What could not be stamped is damaged. -/
theorem decode_broken (path : String) (now : Option DateTime) :
    decode nesting now (broken path) = .error (.damaged (.compression .truncated)) := by
  rw [decode, broken, Gzip.decompress_opening]

/-- A document of numbers that fit is read as its counter, if there are no seconds in the offsets of its
dates. -/
theorem decodeText_text (now : Option DateTime) (room : 3 ≤ nesting) (fits : c.FitsDigits)
    (whole : c.Whole) : decodeText nesting now c.text = .ok c := by
  have read := read_document c room
  rw [find?_refuses_of_fits fits] at read
  rw [decodeText, read]
  simp only [Counter.ofJson, Counter.check_toJson now whole]
  rfl

/-- A number that does not fit is why the whole document is damaged. -/
theorem decodeText_tooLong (now : Option DateTime) (room : 3 ≤ nesting)
    (tooLong : ¬ c.FitsDigits) :
    ∃ n ∈ c.integers, ¬ FitsDigits n ∧
      decodeText nesting now c.text = .error (.damaged (.tooManyDigits (Json.digitCount n))) := by
  have read := read_document c room
  cases found : c.integers.find? (limits nesting).refuses with
  | none =>
    refine absurd ?_ tooLong
    intro n listed
    have accepted := List.find?_eq_none.mp found n listed
    rw [refuses_eq, decide_eq_true_iff, Nat.not_lt] at accepted
    exact (fitsDigits_iff n).mpr accepted
  | some n =>
    have refused := List.find?_some found
    rw [refuses_eq, decide_eq_true_iff] at refused
    refine ⟨n, List.mem_of_find?_eq_some found, ?_, ?_⟩
    · rw [fitsDigits_iff, Nat.not_le]
      exact refused
    · rw [found] at read
      rw [decodeText, read]
      rfl

end Snapshot

end CounterArchive
