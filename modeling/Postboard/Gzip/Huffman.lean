import Postboard.Gzip.Bits

/-! Canonical prefix codes, given by the length of each symbol's code. -/
namespace Postboard.Gzip

structure Huffman where
  counts : List Nat
  symbols : Array Nat

namespace Huffman

def symbolsOf (lengths : List Nat) (length : Nat) : List Nat :=
  (lengths.zipIdx.filter fun (l, _) => l == length).map (·.2)

def ofLengths (lengths : List Nat) : Huffman :=
  let longest := lengths.foldl max 1
  let byLength := (List.range longest).map fun n => symbolsOf lengths (n + 1)
  { counts := byLength.map (·.length), symbols := byLength.flatten.toArray }

def spaceTaken (counts : List Nat) : Nat := counts.foldl (fun space count => 2 * space + count) 0

def isComplete (h : Huffman) : Bool := spaceTaken h.counts == 1 <<< h.counts.length

def isUsable (h : Huffman) : Bool := h.isComplete || (h.counts.length == 1 && h.symbols.size ≤ 1)

/-- Follows the bits of a code. `code` is what was read, `first` the first code of its length, `index`
the place of that code's symbol, and the list counts the codes of each length from here on. Bits that
are no code are found out once they are as long as the longest code. -/
def follow (symbols : Array Nat) : List Nat → Nat → Nat → Nat → Bits → Except Fault (Nat × Bits)
  | [], _, _, _, _ => .error .corrupt
  | count :: rest, code, first, index, bits => do
    let (bit, bits) ← bits.takeOne
    let code := code + bit
    if code < first + count then
      match symbols[index + (code - first)]? with
      | some symbol => .ok (symbol, bits)
      | none => .error .corrupt
    else follow symbols rest (2 * code) (2 * (first + count)) (index + count) bits

def next (h : Huffman) (bits : Bits) : Except Fault (Nat × Bits) := follow h.symbols h.counts 0 0 0 bits

end Huffman
end Postboard.Gzip
