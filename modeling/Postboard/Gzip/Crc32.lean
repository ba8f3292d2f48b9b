import Postboard.Gzip.Bits

/-! The check sum of gzip members: the 32-bit cyclic redundancy check in its reflected form. -/
namespace Postboard.Gzip

def crcStep (c : UInt32) : UInt32 := if c &&& 1 = 1 then (c >>> 1) ^^^ 0xEDB88320 else c >>> 1

def crcByte (c : UInt32) (b : UInt8) : UInt32 :=
  crcStep <| crcStep <| crcStep <| crcStep <| crcStep <| crcStep <| crcStep <| crcStep (c ^^^ b.toUInt32)

def crc32 (data : Bytes) : UInt32 := data.foldl crcByte 0xFFFFFFFF ^^^ 0xFFFFFFFF

end Postboard.Gzip
