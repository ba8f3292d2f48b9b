import Mathlib
import Postboard.Gzip.Member

/-! Members whose bytes stand as they are. Such a member reads back, for bytes of any number; the
other kinds of block are not written, and nothing is said of them. -/
namespace Postboard.Gzip

theorem byteOfDigit (n : Nat) : (UInt8.ofNat n).toNat = n % 256 := UInt8.toNat_ofNat'

theorem ofLittleEndianBytes (width value : Nat) : ofLittleEndian (littleEndian width value) = value % 256 ^ width := by
  induction width generalizing value with
  | zero => simp [littleEndian, ofLittleEndian, Nat.mod_one]
  | succ width ih =>
    rw [littleEndian, ofLittleEndian, ih, byteOfDigit, Nat.pow_succ, Nat.mul_comm _ 256, Nat.mod_mul]

theorem littleEndianRead {width value : Nat} (bound : value < 256 ^ width) :
    ofLittleEndian (littleEndian width value) = value := by
  rw [ofLittleEndianBytes, Nat.mod_eq_of_lt bound]

theorem copyBytesAll (data rest : Bytes) (out : Array UInt8) :
    copyBytes none data.length out (data ++ rest) = (out ++ data, .ok ⟨rest, 0⟩) := by
  induction data generalizing out with
  | nil => simp [copyBytes]
  | cons b data ih =>
    rw [List.length_cons, List.cons_append, copyBytes]
    simp only [isFull, Bool.false_eq_true, ↓reduceIte, ih]
    simp

theorem twoBytes (n : Nat) : littleEndian 2 n = [UInt8.ofNat n, UInt8.ofNat (n / 256)] := rfl

theorem unpackStoredBlock {block : Bytes} (short : block.length ≤ 65535) (rest : Bytes) (out : Array UInt8) :
    unpackStored none out
      (littleEndian 2 block.length ++ littleEndian 2 (65535 - block.length) ++ (block ++ rest)) =
      (out ++ block, .ok ⟨rest, 0⟩) := by
  have length := @littleEndianRead 2 block.length (by omega)
  have complement := @littleEndianRead 2 (65535 - block.length) (by omega)
  rw [twoBytes] at length complement
  rw [twoBytes, twoBytes]
  simp only [List.cons_append, List.nil_append, unpackStored, length, complement,
    Nat.add_sub_cancel' short, ↓reduceIte]
  exact copyBytesAll block rest out

theorem storedMark {mark : UInt8} (known : mark = 0 ∨ mark = 1) (rest : Bytes) :
    Bits.take 3 ⟨mark :: rest, 0⟩ = .ok (mark.toNat, ⟨mark :: rest, 3⟩) := by
  rcases known with rfl | rfl <;> simp [Bits.take, Bits.takeOne, bind, Except.bind, pure, Except.pure]

theorem alignedMark (mark : UInt8) (rest : Bytes) : Bits.aligned ⟨mark :: rest, 3⟩ = rest := rfl

theorem unpackBlocksMarked {mark : UInt8} (known : mark = 0 ∨ mark = 1) {block : Bytes}
    (short : block.length ≤ 65535) (symbols fuel : Nat) (rest : Bytes) (out : Array UInt8) :
    unpackBlocks none symbols (fuel + 1) out
      ⟨mark :: (littleEndian 2 block.length ++ littleEndian 2 (65535 - block.length) ++ (block ++ rest)), 0⟩ =
      if mark = 1 then (out ++ block, .ok rest) else unpackBlocks none symbols fuel (out ++ block) ⟨rest, 0⟩ := by
  have stored : mark.toNat / 2 = 0 := by rcases known with rfl | rfl <;> rfl
  rw [unpackBlocks, storedMark known]
  dsimp only
  rw [unpackBlock, if_pos stored, alignedMark, unpackStoredBlock short]
  rcases known with rfl | rfl <;> rfl

/- Every block but the last holds 65535 bytes, so the bytes that are left bound the blocks. -/
theorem unpackBlocksStored (symbols : Nat) (rest data : Bytes) (fuel : Nat) (enough : data.length < fuel)
    (out : Array UInt8) :
    unpackBlocks none symbols fuel out ⟨storeBlocks data ++ rest, 0⟩ = (out ++ data, .ok rest) := by
  fun_induction storeBlocks data generalizing fuel out with
  | case1 data block left mark head last =>
    obtain ⟨fuel, rfl⟩ : ∃ n, fuel = n + 1 := ⟨fuel - 1, by omega⟩
    have one : mark = 1 := by simp [mark, last]
    have short : data.length ≤ 65535 := by simpa [left] using last
    have all : block = data := List.take_of_length_le short
    have step := unpackBlocksMarked (.inr one) (all ▸ short) symbols fuel rest out
    rw [if_pos one] at step
    simpa [head, all] using step
  | case2 data block left mark head more ih =>
    obtain ⟨fuel, rfl⟩ : ∃ n, fuel = n + 1 := ⟨fuel - 1, by omega⟩
    have zero : mark = 0 := by simp [mark, more]
    have long : 65535 < data.length := by simpa [left] using more
    have less : left.length < fuel := by
      simp only [left, List.length_drop]
      omega
    have split : block ++ left = data := List.take_append_drop 65535 data
    have step := unpackBlocksMarked (.inl zero) (List.length_take_le 65535 data) symbols fuel
      (storeBlocks left ++ rest) out
    rw [if_neg (by rw [zero]; decide), ih fuel less] at step
    have joined : out ++ block ++ left = out ++ data := by
      apply Array.ext'
      simp [← split]
    rw [← joined]
    simpa [head, block] using step

theorem storeBlocksLonger (data : Bytes) : data.length < (storeBlocks data).length := by
  fun_induction storeBlocks data with
  | case1 data block left mark head last =>
    have short : data.length ≤ 65535 := by simpa [left] using last
    simp only [head, block, List.length_cons, List.length_append, List.length_take]
    omega
  | case2 data block left mark head more ih =>
    have rest : left.length = data.length - 65535 := List.length_drop
    simp only [head, block, List.length_cons, List.length_append, List.length_take]
    omega

theorem inflateStored (data rest : Bytes) : inflate none (storeBlocks data ++ rest) = (data.toArray, .ok rest) := by
  have longer := storeBlocksLonger data
  have enough : data.length < 8 * (storeBlocks data ++ rest).length + 1 := by
    rw [List.length_append]
    omega
  rw [inflate, unpackBlocksStored _ _ _ _ enough]
  simp

theorem checkTrailerOwn (data : Bytes) :
    checkTrailer data (littleEndian 4 (crc32 data).toNat ++ littleEndian 4 data.length) := by
  have eight : (littleEndian 4 (crc32 data).toNat ++ littleEndian 4 data.length).length = 8 := by
    simp [littleEndianLength]
  have all := splitExactlyAppend eight []
  rw [List.append_nil] at all
  simp [checkTrailer, all]

theorem skipHeaderPlain (body : Bytes) :
    skipHeader ([0x1f, 0x8b, 0x08, 0, 0, 0, 0, 0, 0, 0xff] ++ body) = some body := rfl

theorem decodeEncode (data : Bytes) : decode (encode data) = some data := by
  rw [encode, List.append_assoc, List.append_assoc, decode, skipHeaderPlain]
  simp only [bind, Option.bind, inflateStored, checkTrailerOwn, ↓reduceIte]

end Postboard.Gzip
