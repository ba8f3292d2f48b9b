import Postboard.Proofs.Gzip.Room
import Postboard.Proofs.Snapshot.Codec
import Postboard.Snapshot.Container

/-! Containers as they are packed and unpacked, under any compression that the reader of gzip members
undoes. Damaged containers are not covered. -/
namespace Postboard.Container
open Gzip

theorem writeHeaderLength (h : Header) : (writeHeader h).length = headerLength := by
  simp [writeHeader, magic, headerLength, littleEndianLength]

theorem dropHeader (h : Header) (body : Bytes) : (writeHeader h ++ body).drop headerLength = body :=
  List.drop_left' (writeHeaderLength h)

theorem sizeWritten (size : UInt32) (body : Bytes) :
    UInt32.ofNat (ofLittleEndian ((littleEndian 4 size.toNat ++ body).take 4)) = size := by
  rw [List.take_left' (littleEndianLength 4 size.toNat), littleEndianRead size.toNat_lt, UInt32.ofNat_toNat]

theorem readHeaderWritten (h : Header) (body : Bytes) (highest : UInt8) :
    readHeader (writeHeader h ++ body) highest =
      if h.version.major ≤ highest then .ok h else .error (.unsupported h.version) := by
  have long : ¬ (writeHeader h ++ body).length < headerLength := by
    rw [List.length_append, writeHeaderLength]
    omega
  have start : (writeHeader h ++ body).take 5 = magic := rfl
  have after : (writeHeader h ++ body).drop 5 =
      h.version.major :: h.version.minor :: (littleEndian 4 h.size.toNat ++ body) := rfl
  rw [readHeader, if_neg long, if_neg (not_not_intro start), after]
  dsimp only
  by_cases known : h.version.major ≤ highest
  · rw [if_neg (UInt8.not_lt.2 known), if_pos known, sizeWritten]
  · rw [if_pos (UInt8.not_le.1 known), if_neg known]

section Packed
variable {compress : Bytes → Bytes} {binary : Bytes}

theorem packFits (short : binary.length < UInt32.size) (version : Version) :
    packWith compress binary version =
      .ok (writeHeader ⟨version, UInt32.ofNat binary.length⟩ ++ compress binary) :=
  if_pos short

/- The reader asks for one byte more than there are, which a sound member answers with all there are. -/
theorem unpackPacked (undone : decode (compress binary) = some binary) (short : binary.length < UInt32.size)
    (version : Version) (highest : UInt8) {read : Binary.Reader α} {a : α} {rest : Bytes}
    (decoded : read binary = some (a, rest)) :
    unpack (writeHeader ⟨version, UInt32.ofNat binary.length⟩ ++ compress binary) highest read =
      if version.major ≤ highest then .ok a else .error (.unsupported version) := by
  have size : (UInt32.ofNat binary.length).toNat = binary.length := UInt32.toNat_ofNat_of_lt' short
  have whole := decodeUpToOfDecode undone (Nat.lt_succ_self binary.length)
  rw [unpack, readHeaderWritten]
  by_cases known : version.major ≤ highest
  · simp only [if_pos known, bind, Except.bind, size, dropHeader, whole, ne_eq, not_true_eq_false, ↓reduceIte,
      decoded, pure, Except.pure]
  · simp only [if_neg known, bind, Except.bind]

theorem validatePacked (version : Version) (body : Bytes) (size : UInt32) :
    validate (writeHeader ⟨version, size⟩ ++ body) =
      if version.major ≤ 1 then .ok version else .error (.unsupported version) := by
  rw [validate, readHeaderWritten]
  by_cases known : version.major ≤ 1
  · rw [if_pos known, if_pos (show version.major ≤ current.major from known)]
    rfl
  · rw [if_neg known, if_neg (show ¬ version.major ≤ current.major from known)]
    rfl

theorem readPacked (undone : ∀ bytes, decode (compress bytes) = some bytes) {s : Snapshot} {data : Bytes}
    (packed : packWith compress (Binary.writeSnapshot s) current = .ok data) :
    s.LengthsFit ∧ readSnapshot data = .ok s := by
  by_cases short : (Binary.writeSnapshot s).length < UInt32.size
  · have fits : s.LengthsFit := Binary.snapshotLengthsFit (Nat.lt_trans short (by decide))
    have decoded := Binary.snapshotReads fits []
    rw [List.append_nil] at decoded
    rw [packFits short] at packed
    cases packed
    exact ⟨fits, unpackPacked (undone _) short current current.major decoded⟩
  · rw [packWith, if_neg short] at packed
    contradiction

theorem loadPacked (undone : ∀ bytes, decode (compress bytes) = some bytes) {s : Snapshot} {data : Bytes}
    (packed : packWith compress (Binary.writeSnapshot s) current = .ok data) :
    ∃ store, Store.ofSnapshot data = .ok store ∧ store.posts = s.posts := by
  obtain ⟨fits, read⟩ := readPacked undone packed
  have countable := fits.count
  refine ⟨Store.ofList s.posts, ?_, List.take_of_length_le (by omega)⟩
  rw [Store.ofSnapshot, read]

end Packed

theorem snapshotRoundTrip {compress : Bytes → Bytes} (lossless : ∀ bytes, decode (compress bytes) = some bytes)
    (s : Snapshot) (version : Version) (highest : UInt8) :
    (s.LengthsFit → ∀ rest, Binary.readSnapshot (Binary.writeSnapshot s ++ rest) = some (s, rest)) ∧
    ((Binary.writeSnapshot s).length < UInt32.size →
      ∃ data, packWith compress (Binary.writeSnapshot s) version = .ok data ∧
        unpack data highest Binary.readSnapshot =
          (if version.major ≤ highest then .ok s else .error (.unsupported version)) ∧
        validate data = if version.major ≤ 1 then .ok version else .error (.unsupported version)) := by
  refine ⟨fun fits => Binary.snapshotReads fits, fun short => ?_⟩
  have fits : s.LengthsFit := Binary.snapshotLengthsFit (Nat.lt_trans short (by decide))
  have decoded := Binary.snapshotReads fits []
  rw [List.append_nil] at decoded
  exact ⟨_, packFits short version, unpackPacked (lossless _) short version highest decoded,
    validatePacked version _ _⟩

def farSnapshot : Snapshot where
  metadata := {
    count := 18446744073709551615
    createdAt := ⟨⟨95745764, by decide, by decide⟩, 86399, 1999999999, by decide, by decide⟩
    earliest := some ⟨⟨-95745764, by decide, by decide⟩, 7, 120000000, by decide, by decide⟩
    latest := none
    version := "" }
  posts := [{
    id := "é"
    text := "🍌"
    username := "b"
    url := some ""
    likes := 250
    replies := 251
    retweets := 65536
    sentiment := some .negative
    createdAt := ⟨⟨-1, by decide, by decide⟩, 1, 1000, by decide, by decide⟩ }]

theorem farSnapshotKept :
    (∀ rest, Binary.readSnapshot (Binary.writeSnapshot farSnapshot ++ rest) = some (farSnapshot, rest)) ∧
    ∃ data, pack (Binary.writeSnapshot farSnapshot) ⟨2, 7⟩ = .ok data ∧
      unpack data 2 Binary.readSnapshot = .ok farSnapshot ∧ validate data = .error (.unsupported ⟨2, 7⟩) := by
  have short : (Binary.writeSnapshot farSnapshot).length < UInt32.size := by decide +kernel
  have kept := snapshotRoundTrip decodeEncode farSnapshot ⟨2, 7⟩ 2
  have fits := Binary.snapshotLengthsFit (Nat.lt_trans short (by decide))
  exact ⟨kept.1 fits, kept.2 short⟩

end Postboard.Container
