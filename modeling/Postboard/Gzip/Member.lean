import Postboard.Gzip.Crc32
import Postboard.Gzip.Inflate

/-! A gzip member: a header, a deflate stream, and a trailer with the check sum and the length. -/
namespace Postboard.Gzip

def hasFlag (flags : UInt8) (bit : Nat) : Bool := (flags.toNat >>> bit) % 2 == 1

def skipText (s : Bytes) : Option Bytes :=
  let text := (s.take 65535).takeWhile (· != 0)
  match s.drop text.length with
  | 0 :: rest => some rest
  | _ => none

def skipExtra (s : Bytes) : Option Bytes := do
  let (length, s) ← splitExactly 2 s
  let (_, s) ← splitExactly (ofLittleEndian length) s
  return s

def skipHeader (data : Bytes) : Option Bytes :=
  match data with
  | 0x1f :: 0x8b :: 0x08 :: flags :: rest => do
    if 32 ≤ flags.toNat then none
    else
      let (_, s) ← splitExactly 6 rest
      let s ← if hasFlag flags 2 then skipExtra s else some s
      let s ← if hasFlag flags 3 then skipText s else some s
      let s ← if hasFlag flags 4 then skipText s else some s
      if hasFlag flags 1 then
        let sum := (crc32 (data.take (data.length - s.length))).toNat % 65536
        let (given, s) ← splitExactly 2 s
        if ofLittleEndian given = sum then some s else none
      else some s
  | _ => none

def checkTrailer (output trailer : Bytes) : Bool :=
  match splitExactly 8 trailer with
  | some (given, _) => given == littleEndian 4 (crc32 output).toNat ++ littleEndian 4 output.length
  | none => false

def decode (data : Bytes) : Option Bytes := do
  let body ← skipHeader data
  match inflate none body with
  | (out, .ok trailer) => if checkTrailer out.toList trailer then some out.toList else none
  | (_, .error _) => none

/-- Data comes in and bytes go out in pieces of this size. Bytes are handed out when the piece of data
they came from is used up, or when the piece of bytes they belong to is full and there is another byte. -/
def pieceSize : Nat := 32768

def wholePieces (member body : Bytes) : List Bytes :=
  let header := member.length - body.length
  (List.range (member.length / pieceSize)).map fun n => body.take ((n + 1) * pieceSize - header)

/-- The first bytes of the first member, at most `limit` of them. Only what is needed is unpacked, and
the trailer is looked at only if the member ends before the limit. A fault in the stream does not matter
if enough bytes were handed out before. -/
def decodeUpTo (limit : Nat) (data : Bytes) : Option Bytes := do
  let body ← skipHeader data
  let room := (limit + pieceSize - 1) / pieceSize * pieceSize
  match inflate (some room) body with
  | (out, .ok trailer) =>
    let bytes := out.toList
    if out.size < limit then (if checkTrailer bytes trailer then some bytes else none) else some (bytes.take limit)
  | (out, .error .truncated) => if out.size < limit then none else some (out.toList.take limit)
  | (out, .error .full) => some (out.toList.take limit)
  | (_, .error .corrupt) =>
    (wholePieces data body).findSome? fun start =>
      match inflate (some room) start with
      | (out, .error .truncated) => if out.size < limit then none else some (out.toList.take limit)
      | _ => none

def encode (data : Bytes) : Bytes :=
  [0x1f, 0x8b, 0x08, 0, 0, 0, 0, 0, 0, 0xff] ++ storeBlocks data ++
  littleEndian 4 (crc32 data).toNat ++ littleEndian 4 data.length

end Postboard.Gzip
