/-! Bytes taken bit by bit, the lowest bit of each byte first. -/
namespace Postboard.Gzip

abbrev Bytes := List UInt8

structure Bits where
  bytes : Bytes
  used : Nat := 0

inductive Fault where
  | corrupt
  | truncated
  | full
  deriving DecidableEq

namespace Bits

def takeOne (b : Bits) : Except Fault (Nat × Bits) :=
  match b.bytes with
  | [] => .error .truncated
  | first :: rest =>
    .ok ((first.toNat >>> b.used) % 2, if b.used < 7 then ⟨b.bytes, b.used + 1⟩ else ⟨rest, 0⟩)

def take : Nat → Bits → Except Fault (Nat × Bits)
  | 0, b => .ok (0, b)
  | n + 1, b => do
    let (low, b) ← b.takeOne
    let (high, b) ← take n b
    return (low + 2 * high, b)

def aligned (b : Bits) : Bytes := if b.used = 0 then b.bytes else b.bytes.tail

end Bits

def littleEndian : Nat → Nat → Bytes
  | 0, _ => []
  | n + 1, value => UInt8.ofNat value :: littleEndian n (value / 256)

def ofLittleEndian : Bytes → Nat
  | [] => 0
  | b :: rest => b.toNat + 256 * ofLittleEndian rest

def splitExactly (n : Nat) (s : Bytes) : Option (Bytes × Bytes) :=
  let taken := s.take n
  if taken.length = n then some (taken, s.drop n) else none

theorem littleEndianLength (n value : Nat) : (littleEndian n value).length = n := by
  induction n generalizing value with
  | zero => rfl
  | succ n ih => simp [littleEndian, ih]

theorem splitExactlyAppend {n : Nat} {a : Bytes} (h : a.length = n) (rest : Bytes) :
    splitExactly n (a ++ rest) = some (a, rest) := by
  subst h
  simp [splitExactly]

end Postboard.Gzip
