import Postboard.Gzip.Huffman

/-! Unpacking a deflate stream. The data is a row of blocks; a block holds its bytes as they are, or as
symbols of two prefix codes: bytes and lengths in one, distances to earlier bytes in the other. -/
namespace Postboard.Gzip

abbrev Unpacked (α : Type) := Array UInt8 × Except Fault α

@[inline] def Unpacked.andThen (first : Unpacked α) (next : Array UInt8 → α → Unpacked β) : Unpacked β :=
  match first with
  | (out, .ok a) => next out a
  | (out, .error fault) => (out, .error fault)

def isFull (room : Option Nat) (out : Array UInt8) : Bool :=
  match room with
  | some size => size ≤ out.size
  | none => false

def lengthTable : List (Nat × Nat) := [
  (3, 0), (4, 0), (5, 0), (6, 0), (7, 0), (8, 0), (9, 0), (10, 0), (11, 1), (13, 1), (15, 1), (17, 1),
  (19, 2), (23, 2), (27, 2), (31, 2), (35, 3), (43, 3), (51, 3), (59, 3), (67, 4), (83, 4), (99, 4), (115, 4),
  (131, 5), (163, 5), (195, 5), (227, 5), (258, 0)]

def distanceTable : List (Nat × Nat) := [
  (1, 0), (2, 0), (3, 0), (4, 0), (5, 1), (7, 1), (9, 2), (13, 2), (17, 3), (25, 3), (33, 4), (49, 4),
  (65, 5), (97, 5), (129, 6), (193, 6), (257, 7), (385, 7), (513, 8), (769, 8), (1025, 9), (1537, 9),
  (2049, 10), (3073, 10), (4097, 11), (6145, 11), (8193, 12), (12289, 12), (16385, 13), (24577, 13)]

def extended (table : List (Nat × Nat)) (symbol : Nat) (bits : Bits) : Except Fault (Nat × Bits) :=
  match table[symbol]? with
  | some (base, extra) => do
    let (more, bits) ← bits.take extra
    return (base + more, bits)
  | none => .error .corrupt

/-- Repeats `length` bytes from `distance` bytes back. What lies before the first byte reads as zero. -/
def repeatBytes (room : Option Nat) (distance : Nat) : Nat → Array UInt8 → Unpacked Unit
  | 0, out => (out, .ok ())
  | length + 1, out =>
    if isFull room out then (out, .error .full)
    else
      let byte := if distance ≤ out.size then out.getD (out.size - distance) 0 else 0
      repeatBytes room distance length (out.push byte)

@[irreducible] def readRepetition (distances : Huffman) (symbol : Nat) (bits : Bits) : Except Fault (Nat × Nat × Bits) := do
  let (length, bits) ← extended lengthTable (symbol - 257) bits
  let (symbol, bits) ← distances.next bits
  let (distance, bits) ← extended distanceTable symbol bits
  return (length, distance, bits)

/-- The symbols of a block up to its end. The fuel bounds their number; each takes a bit at least. -/
def unpackSymbols (room : Option Nat) (literals distances : Huffman) :
    Nat → Array UInt8 → Bits → Unpacked Bits
  | 0, out, _ => (out, .error .truncated)
  | fuel + 1, out, bits =>
    match literals.next bits with
    | .error fault => (out, .error fault)
    | .ok (symbol, bits) =>
      if symbol < 256 then
        if isFull room out then (out, .error .full)
        else unpackSymbols room literals distances fuel (out.push (UInt8.ofNat symbol)) bits
      else if symbol = 256 then (out, .ok bits)
      else
        match readRepetition distances symbol bits with
        | .error fault => (out, .error fault)
        | .ok (length, distance, bits) =>
          (repeatBytes room distance length out).andThen fun out _ =>
            unpackSymbols room literals distances fuel out bits

def copyBytes (room : Option Nat) : Nat → Array UInt8 → Bytes → Unpacked Bits
  | 0, out, bytes => (out, .ok ⟨bytes, 0⟩)
  | _ + 1, out, [] => (out, .error .truncated)
  | length + 1, out, b :: rest =>
    if isFull room out then (out, .error .full) else copyBytes room length (out.push b) rest

def unpackStored (room : Option Nat) (out : Array UInt8) (bytes : Bytes) : Unpacked Bits :=
  match bytes with
  | a :: b :: c :: d :: rest =>
    let length := ofLittleEndian [a, b]
    if length + ofLittleEndian [c, d] = 0xFFFF then copyBytes room length out rest
    else (out, .error .corrupt)
  | _ => (out, .error .truncated)

def fixedLiterals : Huffman := .ofLengths <|
  List.replicate 144 8 ++ List.replicate 112 9 ++ List.replicate 24 7 ++ List.replicate 8 8

def fixedDistances : Huffman := .ofLengths (List.replicate 32 5)

def lengthOrder : List Nat := [16, 17, 18, 0, 8, 7, 9, 6, 10, 5, 11, 4, 12, 3, 13, 2, 14, 1, 15]

def takeLengths : Nat → Bits → Except Fault (List Nat × Bits)
  | 0, bits => .ok ([], bits)
  | n + 1, bits => do
    let (length, bits) ← bits.take 3
    let (rest, bits) ← takeLengths n bits
    return (length :: rest, bits)

/-- The code lengths of the two codes of a block, themselves in a code. `known` holds those read, the
last one first, and the fuel is the number of those that are missing. -/
def readCodeLengths (code : Huffman) (total : Nat) : Nat → List Nat → Bits → Except Fault (List Nat × Bits)
  | 0, known, bits => if known.length = total then .ok (known.reverse, bits) else .error .corrupt
  | fuel + 1, known, bits =>
    if total ≤ known.length then readCodeLengths code total 0 known bits
    else do
      let (symbol, bits) ← code.next bits
      if symbol < 16 then readCodeLengths code total fuel (symbol :: known) bits
      else if symbol = 16 then
        match known with
        | last :: _ =>
          let (more, bits) ← bits.take 2
          readCodeLengths code total fuel (List.replicate (3 + more) last ++ known) bits
        | [] => .error .corrupt
      else if symbol = 17 then
        let (more, bits) ← bits.take 3
        readCodeLengths code total fuel (List.replicate (3 + more) 0 ++ known) bits
      else
        let (more, bits) ← bits.take 7
        readCodeLengths code total fuel (List.replicate (11 + more) 0 ++ known) bits

def readCodes (bits : Bits) : Except Fault (Huffman × Huffman × Bits) := do
  let (literals, bits) ← bits.take 5
  let (distances, bits) ← bits.take 5
  let (lengths, bits) ← bits.take 4
  let literals := literals + 257
  let distances := distances + 1
  if 286 < literals ∨ 30 < distances then throw .corrupt
  let (given, bits) ← takeLengths (lengths + 4) bits
  let code := Huffman.ofLengths <| (List.range 19).map fun symbol =>
    ((lengthOrder.zip given).lookup symbol).getD 0
  if !code.isComplete then throw .corrupt
  let total := literals + distances
  let (all, bits) ← readCodeLengths code total total [] bits
  let literalCode := Huffman.ofLengths (all.take literals)
  let distanceCode := Huffman.ofLengths (all.drop literals)
  if !literalCode.isUsable || !distanceCode.isUsable then throw .corrupt
  return (literalCode, distanceCode, bits)

def unpackBlock (room : Option Nat) (fuel kind : Nat) (out : Array UInt8) (bits : Bits) : Unpacked Bits :=
  if kind = 0 then unpackStored room out bits.aligned
  else if kind = 1 then unpackSymbols room fixedLiterals fixedDistances fuel out bits
  else if kind = 2 then
    match readCodes bits with
    | .ok (literals, distances, bits) => unpackSymbols room literals distances fuel out bits
    | .error fault => (out, .error fault)
  else (out, .error .corrupt)

def unpackBlocks (room : Option Nat) (symbols : Nat) : Nat → Array UInt8 → Bits → Unpacked Bytes
  | 0, out, _ => (out, .error .truncated)
  | fuel + 1, out, bits =>
    match bits.take 3 with
    | .error fault => (out, .error fault)
    | .ok (header, bits) =>
      (unpackBlock room symbols (header / 2) out bits).andThen fun out bits =>
        if header % 2 = 1 then (out, .ok bits.aligned) else unpackBlocks room symbols fuel out bits

def inflate (room : Option Nat) (data : Bytes) : Unpacked Bytes :=
  let fuel := 8 * data.length + 1
  unpackBlocks room fuel fuel #[] ⟨data, 0⟩

def storeBlocks (data : Bytes) : Bytes :=
  let block := data.take 65535
  let rest := data.drop 65535
  let mark : UInt8 := if rest.isEmpty then 1 else 0
  let head := mark :: (littleEndian 2 block.length ++ littleEndian 2 (65535 - block.length)) ++ block
  if rest.isEmpty then head else head ++ storeBlocks rest
termination_by data.length
decreasing_by
  rename_i more
  have : 65535 < data.length := by simpa [rest] using more
  simp only [List.length_drop]
  omega

end Postboard.Gzip
