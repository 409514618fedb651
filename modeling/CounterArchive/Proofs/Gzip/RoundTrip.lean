import CounterArchive.Gzip.File

/-! A compressed file is read back as what it was made of, in whatever way it was compressed. -/
namespace CounterArchive.Gzip

open Decoder

/-- A name is skipped up to the zero behind it. -/
theorem run_skipThroughZero {name : List UInt8} (noZero : 0 ∉ name) (pending : List Bool)
    (rest : List UInt8) :
    skipThroughZero.run ⟨pending, name ++ [0] ++ rest⟩ = .ok ((), ⟨[], rest⟩) := by
  have kept : (name ++ [0] ++ rest).dropWhile (· ≠ 0) = 0 :: rest := by
    rw [List.append_assoc, List.dropWhile_append_of_pos]
    · simp
    · intro byte listed
      simpa using ne_of_mem_of_not_mem listed noZero
  simp only [skipThroughZero, kept, List.tail_cons]

def body (d : Deflater) (stamp : UInt32) (name content : List UInt8) : List UInt8 :=
  wordBytes 1 8 ++ (wordBytes 1 (if name = [] then 0 else 8) ++
    ((wordBytes 4 stamp.toNat ++ [2, 255]) ++ ((if name = [] then [] else name ++ [0]) ++
      (d.deflate content ++ (wordBytes 4 (crc32 content).toNat ++
        (wordBytes 4 (content.length % 0x100000000) ++ []))))))

theorem compress_eq (d : Deflater) (stamp : UInt32) (name content : List UInt8) :
    compress d stamp name content = 0x1F :: 0x8B :: body d stamp name content := by
  by_cases nameless : name = []
  · simp [compress, header, opening, body, wordBytes, nameless]
  · simp [compress, header, opening, body, wordBytes, nameless]

/-- Blocks are followed by the checksum and the length of what is in them. -/
theorem run_blocks (d : Deflater) (content : List UInt8) :
    (do
      let read ← inflate
      let checksum ← word 4
      let length ← word 4
      let computed := crc32 read.toList
      if checksum ≠ computed.toNat then fail (.wrongChecksum checksum.toUInt32 computed)
      if length ≠ read.size % 0x100000000 then fail .wrongLength
      return read : Decoder (Array UInt8)).run
      ⟨[], d.deflate content ++ (wordBytes 4 (crc32 content).toNat ++
        (wordBytes 4 (content.length % 0x100000000) ++ []))⟩ =
      .ok (content.toArray, ⟨[], []⟩) := by
  obtain ⟨pending, inflated⟩ := d.inflates content (wordBytes 4 (crc32 content).toNat ++
    (wordBytes 4 (content.length % 0x100000000) ++ []))
  have checksum : (crc32 content).toNat < Nat.pow 256 4 := (crc32 content).toNat_lt
  have length : content.length % 0x100000000 < Nat.pow 256 4 := Nat.mod_lt _ (by decide)
  rw [run_bind, bindRun_ok inflated, run_bind, bindRun_ok (run_word pending _ checksum), run_bind,
    bindRun_ok (run_word [] _ length)]
  dsimp only
  rw [if_neg (by simp), if_neg (by simp), run_pure]

theorem run_member (d : Deflater) (stamp : UInt32) {name : List UInt8} (noZero : 0 ∉ name)
    (content : List UInt8) :
    member.run ⟨[], body d stamp name content⟩ = .ok (content.toArray, ⟨[], []⟩) := by
  have stamped : (wordBytes 4 stamp.toNat ++ [2, 255]).length = 6 := by simp
  rw [member, body, run_bind, bindRun_ok (run_word [] _ (by decide)), run_bind]
  by_cases nameless : name = []
  · subst nameless
    rw [if_pos rfl, if_pos rfl, bindRun_ok (run_word [] _ (by decide)), run_bind,
      bindRun_ok (run_bytes [] _ stamped), if_neg (by decide), if_neg (by decide),
      if_neg (by decide), if_neg (by decide), if_neg (by decide)]
    exact run_blocks d content
  · rw [if_neg nameless, if_neg nameless, bindRun_ok (run_word [] _ (by decide)), run_bind,
      bindRun_ok (run_bytes [] _ stamped), if_neg (by decide), if_neg (by decide),
      if_pos (by decide), if_neg (by decide), if_neg (by decide)]
    dsimp only
    rw [run_bind, bindRun_ok (run_skipThroughZero noZero [] _)]
    exact run_blocks d content

/-- What follows a member is read when the member was. -/
theorem decompressOnto_member (out : Array UInt8) (rest : List UInt8) :
    decompressOnto out (0x1F :: 0x8B :: rest) =
      match member.run ⟨[], rest⟩ with
      | .error fault => .error fault
      | .ok (content, after) =>
        decompressOnto (out ++ content) (after.bytes.dropWhile (· = 0)) := by
  rw [decompressOnto.eq_def]
  split
  · rename_i same
    obtain rfl := (List.cons.inj (List.cons.inj same).2).2
    split
    · rename_i failed
      rw [failed]
    · rename_i read
      rw [read]
  · rename_i empty
    cases empty
  · rename_i other _
    exact absurd rfl (other rest)

/-- A member that ends where its time should be is cut off. -/
theorem decompress_opening (name : List UInt8) : decompress (opening name) = .error .truncated := by
  have short (flags : UInt8) : member.run ⟨[], [8, flags]⟩ = .error .truncated := rfl
  have failed : decompressOnto #[] (opening name) = .error .truncated := by
    simp only [opening, decompressOnto_member, short]
  rw [decompress, failed]
  rfl

theorem decompressOnto_nil (out : Array UInt8) : decompressOnto out [] = .ok out := by
  rw [decompressOnto.eq_def]

/-- A file is one member, behind which there is nothing. -/
theorem decompress_compress (d : Deflater) (stamp : UInt32) {name : List UInt8} (noZero : 0 ∉ name)
    (content : List UInt8) : decompress (compress d stamp name content) = .ok content := by
  have read : decompressOnto #[] (compress d stamp name content) = .ok content.toArray := by
    simp only [compress_eq, decompressOnto_member, run_member d stamp noZero content,
      List.dropWhile_nil, decompressOnto_nil, Array.empty_append]
  rw [decompress, read]
  rfl

end CounterArchive.Gzip
