import Postboard.Gzip.Member

/-! Unpacking with and without a bound on the output. The bounded run is the same as the other one as
long as the output fits; where it does not fit, the bounded run says so. What a run with a bound hands
out of a damaged stream is not described here. -/
namespace Postboard.Gzip

variable {α β : Type} {room : Option Nat} {size : Nat} {out : Array UInt8}

def Bounded (size : Nat) (bounded whole : Unpacked α) : Prop :=
  bounded = whole ∨ (bounded.2 = .error .full ∧ size < whole.1.size)

theorem isFullNone (out : Array UInt8) : isFull none out = false := rfl

theorem andThenGrows {first : Unpacked α} {next : Array UInt8 → α → Unpacked β}
    (grows : out.size ≤ first.1.size) (more : ∀ out a, out.size ≤ (next out a).1.size) :
    out.size ≤ (first.andThen next).1.size := by
  obtain ⟨out', fault | a⟩ := first
  · exact grows
  · exact Nat.le_trans grows (more out' a)

theorem repeatBytesGrows (distance length : Nat) (out : Array UInt8) :
    out.size ≤ (repeatBytes room distance length out).1.size := by
  induction length generalizing out with
  | zero => exact Nat.le_refl _
  | succ length ih =>
    unfold repeatBytes
    split
    · exact Nat.le_refl _
    · refine Nat.le_trans ?_ (ih _)
      simp

theorem copyBytesGrows (length : Nat) (out : Array UInt8) (bytes : Bytes) :
    out.size ≤ (copyBytes room length out bytes).1.size := by
  induction length generalizing out bytes with
  | zero => exact Nat.le_refl _
  | succ length ih =>
    cases bytes with
    | nil => exact Nat.le_refl _
    | cons b rest =>
      unfold copyBytes
      split
      · exact Nat.le_refl _
      · refine Nat.le_trans ?_ (ih _ _)
        simp

theorem unpackSymbolsGrows (literals distances : Huffman) (fuel : Nat) (out : Array UInt8) (bits : Bits) :
    out.size ≤ (unpackSymbols room literals distances fuel out bits).1.size := by
  induction fuel generalizing out bits with
  | zero =>
    unfold unpackSymbols
    exact Nat.le_refl _
  | succ fuel ih =>
    unfold unpackSymbols
    split
    · exact Nat.le_refl _
    · split
      · split
        · exact Nat.le_refl _
        · refine Nat.le_trans ?_ (ih _ _)
          simp
      · split
        · exact Nat.le_refl _
        · split
          · exact Nat.le_refl _
          · exact andThenGrows (repeatBytesGrows _ _ _) fun out _ => ih out _

theorem unpackStoredGrows (out : Array UInt8) (bytes : Bytes) :
    out.size ≤ (unpackStored room out bytes).1.size := by
  unfold unpackStored
  split
  · simp only
    split
    · exact copyBytesGrows _ _ _
    · exact Nat.le_refl _
  · exact Nat.le_refl _

theorem unpackBlockGrows (fuel kind : Nat) (out : Array UInt8) (bits : Bits) :
    out.size ≤ (unpackBlock room fuel kind out bits).1.size := by
  unfold unpackBlock
  split
  · exact unpackStoredGrows _ _
  · split
    · exact unpackSymbolsGrows _ _ _ _ _
    · split
      · split
        · exact unpackSymbolsGrows _ _ _ _ _
        · exact Nat.le_refl _
      · exact Nat.le_refl _

theorem unpackBlocksGrows (symbols fuel : Nat) (out : Array UInt8) (bits : Bits) :
    out.size ≤ (unpackBlocks room symbols fuel out bits).1.size := by
  induction fuel generalizing out bits with
  | zero => exact Nat.le_refl _
  | succ fuel ih =>
    unfold unpackBlocks
    split
    · exact Nat.le_refl _
    · refine andThenGrows (unpackBlockGrows _ _ _ _) fun out bits => ?_
      split
      · exact Nat.le_refl _
      · exact ih out bits

theorem boundedFull {whole : Unpacked α} (full : isFull (some size) out)
    (more : out.size < whole.1.size) : Bounded size (out, .error .full) whole :=
  .inr ⟨rfl, Nat.lt_of_le_of_lt (of_decide_eq_true full) more⟩

theorem boundedThen {bounded whole : Unpacked α} {next next' : Array UInt8 → α → Unpacked β}
    (first : Bounded size bounded whole) (step : ∀ out a, Bounded size (next out a) (next' out a))
    (grows : ∀ out a, out.size ≤ (next' out a).1.size) :
    Bounded size (bounded.andThen next) (whole.andThen next') := by
  rcases first with rfl | ⟨full, more⟩
  · obtain ⟨out, fault | a⟩ := bounded
    · exact .inl rfl
    · exact step out a
  · obtain ⟨out, result⟩ := bounded
    cases full
    refine .inr ⟨rfl, ?_⟩
    obtain ⟨out', fault | a⟩ := whole
    · exact more
    · exact Nat.lt_of_lt_of_le more (grows out' a)

theorem repeatBytesBounded (distance length : Nat) (out : Array UInt8) :
    Bounded size (repeatBytes (some size) distance length out) (repeatBytes none distance length out) := by
  induction length generalizing out with
  | zero => exact .inl rfl
  | succ length ih =>
    rw [repeatBytes, repeatBytes, isFullNone]
    simp only [Bool.false_eq_true, ↓reduceIte]
    split
    · rename_i full
      refine boundedFull full (Nat.lt_of_lt_of_le ?_ (repeatBytesGrows _ _ _))
      simp
    · exact ih _

theorem copyBytesBounded (length : Nat) (out : Array UInt8) (bytes : Bytes) :
    Bounded size (copyBytes (some size) length out bytes) (copyBytes none length out bytes) := by
  induction length generalizing out bytes with
  | zero => exact .inl rfl
  | succ length ih =>
    cases bytes with
    | nil => exact .inl rfl
    | cons b rest =>
      rw [copyBytes, copyBytes, isFullNone]
      simp only [Bool.false_eq_true, ↓reduceIte]
      split
      · rename_i full
        refine boundedFull full (Nat.lt_of_lt_of_le ?_ (copyBytesGrows _ _ _))
        simp
      · exact ih _ _

theorem unpackSymbolsBounded (literals distances : Huffman) (fuel : Nat) (out : Array UInt8) (bits : Bits) :
    Bounded size (unpackSymbols (some size) literals distances fuel out bits)
      (unpackSymbols none literals distances fuel out bits) := by
  induction fuel generalizing out bits with
  | zero => exact .inl rfl
  | succ fuel ih =>
    rw [unpackSymbols, unpackSymbols, isFullNone]
    split
    · exact .inl rfl
    · simp only [Bool.false_eq_true, ↓reduceIte]
      split
      · split
        · rename_i full
          refine boundedFull full (Nat.lt_of_lt_of_le ?_ (unpackSymbolsGrows _ _ _ _ _))
          simp
        · exact ih _ _
      · split
        · exact .inl rfl
        · split
          · exact .inl rfl
          · rename_i length distance bits copied
            exact boundedThen (repeatBytesBounded distance length out) (fun out _ => ih out bits)
              fun out _ => unpackSymbolsGrows _ _ _ _ _

theorem unpackStoredBounded (out : Array UInt8) (bytes : Bytes) :
    Bounded size (unpackStored (some size) out bytes) (unpackStored none out bytes) := by
  unfold unpackStored
  split
  · simp only
    split
    · exact copyBytesBounded _ _ _
    · exact .inl rfl
  · exact .inl rfl

theorem unpackBlockBounded (fuel kind : Nat) (out : Array UInt8) (bits : Bits) :
    Bounded size (unpackBlock (some size) fuel kind out bits) (unpackBlock none fuel kind out bits) := by
  unfold unpackBlock
  split
  · exact unpackStoredBounded _ _
  · split
    · exact unpackSymbolsBounded _ _ _ _ _
    · split
      · split
        · exact unpackSymbolsBounded _ _ _ _ _
        · exact .inl rfl
      · exact .inl rfl

theorem unpackBlocksBounded (symbols fuel : Nat) (out : Array UInt8) (bits : Bits) :
    Bounded size (unpackBlocks (some size) symbols fuel out bits) (unpackBlocks none symbols fuel out bits) := by
  induction fuel generalizing out bits with
  | zero => exact .inl rfl
  | succ fuel ih =>
    rw [unpackBlocks, unpackBlocks]
    split
    · exact .inl rfl
    · rename_i header bits read
      refine boundedThen (unpackBlockBounded symbols (header / 2) out bits) ?_ ?_
      · intro out bits
        split
        · exact .inl rfl
        · exact ih _ _
      · intro out bits
        split
        · exact Nat.le_refl _
        · exact unpackBlocksGrows _ _ _ _

theorem inflateBounded (size : Nat) (data : Bytes) : Bounded size (inflate (some size) data) (inflate none data) :=
  unpackBlocksBounded _ _ _ _

theorem inflateFits {data rest : Bytes} (whole : inflate none data = (out, .ok rest)) (fits : out.size ≤ size) :
    inflate (some size) data = (out, .ok rest) := by
  rcases inflateBounded size data with same | ⟨_, more⟩
  · rw [same, whole]
  · rw [whole] at more
    exact absurd fits (Nat.not_le.2 more)

theorem roomEnough (limit : Nat) : limit ≤ (limit + pieceSize - 1) / pieceSize * pieceSize := by
  unfold pieceSize
  omega

theorem decodeUpToOfDecode {member bytes : Bytes} {limit : Nat} (whole : decode member = some bytes)
    (less : bytes.length < limit) : decodeUpTo limit member = some bytes := by
  unfold decode at whole
  obtain ⟨body, header, whole⟩ := Option.bind_eq_some_iff.1 whole
  split at whole
  · rename_i out trailer ends
    split at whole
    · rename_i sound
      cases whole
      have shorter : out.size < limit := by simpa using less
      have bounded := inflateFits ends (Nat.le_trans (Nat.le_of_lt shorter) (roomEnough limit))
      simp only [decodeUpTo, header, bounded, bind, Option.bind, shorter, sound, ↓reduceIte]
    · contradiction
  · contradiction

end Postboard.Gzip
