import CounterArchive.Gzip.Crc32
import CounterArchive.Gzip.Deflater

/-! Compressed files: any number of members, whose contents are put together. A file is written
as one member, which bears a time and perhaps a name. -/
namespace CounterArchive.Gzip

open Decoder

/-- A member behind its first two bytes: header, blocks, checksum and length. -/
def member : Decoder (Array UInt8) := do
  let method ← word 1
  let flags ← word 1
  let _ ← bytes 6
  if method ≠ 8 then fail .unknownMethod
  if flags.testBit 2 then
    let _ ← bytes (← word 2)
  if flags.testBit 3 then skipThroughZero
  if flags.testBit 4 then skipThroughZero
  if flags.testBit 1 then
    let _ ← bytes 2
  let content ← inflate
  let checksum ← word 4
  let length ← word 4
  let computed := crc32 content.toList
  if checksum ≠ computed.toNat then fail (.wrongChecksum checksum.toUInt32 computed)
  if length ≠ content.size % 0x100000000 then fail .wrongLength
  return content

/-- The contents of all members, one after the other. Zeros may follow a member. -/
def decompressOnto (out : Array UInt8) (file : List UInt8) : Except Fault (Array UInt8) :=
  match file with
  | 0x1F :: 0x8B :: rest =>
    match _ : member.run ⟨[], rest⟩ with
    | .error fault => .error fault
    | .ok (content, after) => decompressOnto (out ++ content) (after.bytes.dropWhile (· = 0))
  | [] => .ok out
  | file => .error (.notGzip (file.take 2))
termination_by file.length
decreasing_by
  have shrunk := member.shrinks ‹_›
  have := (List.dropWhile_sublist (· = 0) (l := after.bytes)).length_le
  simp only [Source.size, List.length_nil, List.length_cons] at *
  omega

def decompress (file : List UInt8) : Except Fault (List UInt8) :=
  (decompressOnto #[] file).map Array.toList

/-- What comes before the time in a member: two bytes that tell it is one, the method, and whether a
name follows. -/
def opening (name : List UInt8) : List UInt8 := [0x1F, 0x8B, 8, if name = [] then 0 else 8]

def header (stamp : UInt32) (name : List UInt8) : List UInt8 :=
  opening name ++ wordBytes 4 stamp.toNat ++ [2, 255] ++ if name = [] then [] else name ++ [0]

def compress (d : Deflater) (stamp : UInt32) (name content : List UInt8) : List UInt8 :=
  header stamp name ++ d.deflate content ++ wordBytes 4 (crc32 content).toNat ++
    wordBytes 4 (content.length % 0x100000000)

end CounterArchive.Gzip
