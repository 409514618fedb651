/-! The 32-bit cyclic redundancy check of compressed files: the remainder of the bits, least
significant first, with all bits inverted before and after. -/
namespace CounterArchive.Gzip

def crcShift (crc : UInt32) : UInt32 :=
  if crc &&& 1 = 1 then (crc >>> 1) ^^^ 0xEDB88320 else crc >>> 1

def crcStep (crc : UInt32) (byte : UInt8) : UInt32 :=
  Nat.repeat crcShift 8 (crc ^^^ byte.toUInt32)

def crc32 (bytes : List UInt8) : UInt32 := bytes.foldl crcStep 0xFFFFFFFF ^^^ 0xFFFFFFFF

end CounterArchive.Gzip
