import CounterArchive.Gzip.Inflate

/-! Ways of compressing. There are many, and how small the blocks get is up to them; all that is asked
is that they inflate again. The plainest one stores all bytes as they are. -/
namespace CounterArchive.Gzip

open Decoder

/-- A way of compressing. Whatever follows the blocks of a content, inflating takes just them. -/
structure Deflater where
  deflate : List UInt8 → List UInt8
  inflates : ∀ content rest, ∃ pending,
    inflate.run ⟨[], deflate content ++ rest⟩ = .ok (content.toArray, ⟨pending, rest⟩)

def wordBytes : Nat → Nat → List UInt8
  | 0, _ => []
  | count + 1, n => n.toUInt8 :: wordBytes count (n / 256)

@[simp] theorem length_wordBytes (count n : Nat) : (wordBytes count n).length = count := by
  induction count generalizing n with
  | zero => rfl
  | succ count ih => simp only [wordBytes, List.length_cons, ih]

theorem foldr_wordBytes {count n : Nat} (small : n < Nat.pow 256 count) :
    (wordBytes count n).foldr (fun byte n => byte.toNat + 256 * n) 0 = n := by
  induction count generalizing n with
  | zero =>
    change n < 1 at small
    simp only [wordBytes, List.foldr_nil]
    omega
  | succ count ih =>
    have higher : n / 256 < Nat.pow 256 count := by
      change n < Nat.pow 256 count * 256 at small
      exact Nat.div_lt_of_lt_mul (by rwa [Nat.mul_comm])
    simp only [wordBytes, List.foldr_cons, ih higher, Nat.toUInt8, UInt8.toNat_ofNat']
    omega

namespace Decoder

theorem run_bytes {taken : List UInt8} {count : Nat} (pending : List Bool) (rest : List UInt8)
    (length : taken.length = count) :
    (bytes count).run ⟨pending, taken ++ rest⟩ = .ok (taken, ⟨[], rest⟩) := by
  subst length
  simp [bytes]

theorem bindRun_ok {α β : Type} {d : Decoder α} {f : α → Decoder β} {s rest : Source} {value : α}
    (read : d.run s = .ok (value, rest)) : bindRun d f s = (f value).run rest := by
  simp only [bindRun, read]

theorem run_word {count n : Nat} (pending : List Bool) (rest : List UInt8)
    (small : n < Nat.pow 256 count) :
    (word count).run ⟨pending, wordBytes count n ++ rest⟩ = .ok (n, ⟨[], rest⟩) := by
  rw [word, run_bind, bindRun_ok (run_bytes pending rest (length_wordBytes count n)), run_pure,
    foldr_wordBytes small]

end Decoder

/-! Stored blocks -/

def storedLimit : Nat := 0xFFFF

def storedBytes (last : Bool) (content : List UInt8) : List UInt8 :=
  last.toUInt8 :: wordBytes 2 content.length ++ wordBytes 2 (0xFFFF - content.length) ++ content

def storedBlocks (content : List UInt8) : List UInt8 :=
  if content.length ≤ storedLimit then storedBytes true content
  else storedBytes false (content.take storedLimit) ++ storedBlocks (content.drop storedLimit)
termination_by content.length
decreasing_by simp only [List.length_drop, storedLimit] at *; omega

/-- What a stored block holds is appended to what has been read. -/
theorem run_storedBlock {content : List UInt8} (out : Array UInt8) (pending : List Bool)
    (rest : List UInt8) (fits : content.length ≤ storedLimit) :
    (storedBlock out).run ⟨pending, wordBytes 2 content.length ++
      (wordBytes 2 (0xFFFF - content.length) ++ (content ++ rest))⟩ =
        .ok (out ++ content, ⟨[], rest⟩) := by
  rw [storedLimit] at fits
  have twoBytes : Nat.pow 256 2 = 65536 := rfl
  rw [storedBlock, run_bind, bindRun_ok (run_word pending _ (by omega)), run_bind,
    bindRun_ok (run_word [] _ (by omega)), if_neg (by omega), run_bind,
    bindRun_ok (run_bytes [] rest rfl), run_pure]

/-- One round of reading blocks: the bit that marks the last one, two bits for a stored block,
and the block, for which a new byte begins. -/
def blockRound (last : Bool) (out : Array UInt8) : Decoder (Array UInt8 ⊕ Array UInt8) := do
  let out ← block out
  return if last then .inr out else .inl out

theorem inflate_eq : inflate = rounds blockRound #[] := rfl

theorem bitsAbove_toUInt8 (last : Bool) :
    Source.bitsAbove last.toUInt8 = List.replicate 7 false := by
  cases last <;> decide

theorem testBit_toUInt8 (last : Bool) : last.toUInt8.toNat.testBit 0 = last := by
  cases last <;> decide

theorem run_blockRound_stored {content : List UInt8} (last : Bool) (out : Array UInt8)
    (rest : List UInt8) (fits : content.length ≤ storedLimit) :
    (blockRound last out).run ⟨List.replicate 7 false, wordBytes 2 content.length ++
      (wordBytes 2 (0xFFFF - content.length) ++ (content ++ rest))⟩ =
        .ok (if last then .inr (out ++ content) else .inl (out ++ content), ⟨[], rest⟩) := by
  have kind (bytes : List UInt8) : (bits 2).run ⟨List.replicate 7 false, bytes⟩ =
      .ok (0, ⟨List.replicate 5 false, bytes⟩) := rfl
  have stored : (block out).run ⟨List.replicate 7 false, wordBytes 2 content.length ++
      (wordBytes 2 (0xFFFF - content.length) ++ (content ++ rest))⟩ =
        .ok (out ++ content, ⟨[], rest⟩) := by
    rw [block, run_bind, bindRun_ok (kind _)]
    exact run_storedBlock out _ rest fits
  rw [blockRound, run_bind, bindRun_ok stored, run_pure]

/-- A stored block as it stands in front of `rest`. -/
theorem storedBytes_append (last : Bool) (content rest : List UInt8) :
    storedBytes last content ++ rest = last.toUInt8 :: (wordBytes 2 content.length ++
      (wordBytes 2 (0xFFFF - content.length) ++ (content ++ rest))) := by
  simp only [storedBytes, List.cons_append, List.append_assoc]

theorem next_storedBytes (last : Bool) (bytes : List UInt8) :
    Source.next? ⟨[], last.toUInt8 :: bytes⟩ = some (last, ⟨List.replicate 7 false, bytes⟩) := by
  simp only [Source.next?, testBit_toUInt8, bitsAbove_toUInt8]

theorem roundsRun_storedBytes {content : List UInt8} (last : Bool) (out : Array UInt8)
    (rest : List UInt8) (fits : content.length ≤ storedLimit) :
    roundsRun blockRound out ⟨[], storedBytes last content ++ rest⟩ =
      if last then .ok (out ++ content, ⟨[], rest⟩)
      else roundsRun blockRound (out ++ content) ⟨[], rest⟩ := by
  rw [storedBytes_append, roundsRun.eq_def]
  split
  · rename_i none
    rw [next_storedBytes] at none
    cases none
  · rename_i bit after next
    rw [next_storedBytes] at next
    cases next
    split
    · rename_i fault failed
      rw [run_blockRound_stored last out rest fits] at failed
      cases failed
    · rename_i value left ended
      rw [run_blockRound_stored last out rest fits] at ended
      cases last <;> cases ended
      rfl
    · rename_i state left went
      rw [run_blockRound_stored last out rest fits] at went
      cases last <;> cases went
      rfl

/-- Stored blocks hold the content in pieces, and reading appends them one after the other. -/
theorem roundsRun_storedBlocks (content : List UInt8) (out : Array UInt8) (rest : List UInt8) :
    roundsRun blockRound out ⟨[], storedBlocks content ++ rest⟩ =
      .ok (out ++ content, ⟨[], rest⟩) := by
  fun_induction storedBlocks content generalizing out with
  | case1 content fits =>
    rw [roundsRun_storedBytes true out rest fits, if_pos rfl]
  | case2 content long ih =>
    have fits : (content.take storedLimit).length ≤ storedLimit := by
      rw [List.length_take]
      exact Nat.min_le_left ..
    have whole : out ++ content.take storedLimit ++ content.drop storedLimit = out ++ content := by
      apply Array.toList_inj.mp
      simp
    rw [List.append_assoc, roundsRun_storedBytes false out _ fits, if_neg Bool.false_ne_true, ih,
      whole]

theorem run_inflate_storedBlocks (content rest : List UInt8) :
    inflate.run ⟨[], storedBlocks content ++ rest⟩ = .ok (content.toArray, ⟨[], rest⟩) := by
  rw [inflate_eq]
  have appended : (#[] : Array UInt8) ++ content = content.toArray := by simp
  exact appended ▸ roundsRun_storedBlocks content #[] rest

/-- Nothing is made smaller. -/
def Deflater.stored : Deflater where
  deflate := storedBlocks
  inflates content rest := ⟨[], run_inflate_storedBlocks content rest⟩

end CounterArchive.Gzip
