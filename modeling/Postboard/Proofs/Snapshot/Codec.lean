import Postboard.Proofs.Gzip.Stored
import Postboard.Proofs.Time.Written
import Postboard.Snapshot.Binary

/-! The binary form, each part of it read back whatever bytes follow. A number has to fit in 64 bits, and so
do the length of a text and the count of a list, which stand as numbers before them. Nothing is said of
bytes that were not written. -/
namespace Postboard

structure Post.LengthsFit (p : Post) : Prop where
  id : p.id.utf8ByteSize < UInt64.size
  text : p.text.utf8ByteSize < UInt64.size
  username : p.username.utf8ByteSize < UInt64.size
  url : ∀ url ∈ p.url, url.utf8ByteSize < UInt64.size
  district : ∀ district ∈ p.district, district.utf8ByteSize < UInt64.size

structure Snapshot.LengthsFit (s : Snapshot) : Prop where
  version : s.metadata.version.utf8ByteSize < UInt64.size
  count : s.posts.length < UInt64.size
  posts : ∀ p ∈ s.posts, p.LengthsFit

namespace Binary
open Gzip

def Reads (read : Reader α) (write : α → Bytes) (a : α) : Prop :=
  ∀ rest, read (write a ++ rest) = some (a, rest)

theorem readWideWritten {width n : Nat} (fits : n < 256 ^ width) (rest : Bytes) :
    readWide width (littleEndian width n ++ rest) = some (n, rest) := by
  rw [readWide, splitExactlyAppend (littleEndianLength width n), Option.map_some]
  dsimp only
  rw [littleEndianRead fits]

theorem readNumberSmall {n : Nat} (small : n < 251) (rest : Bytes) :
    readNumber (UInt8.ofNat n :: rest) = some (n, rest) := by
  have byte : (UInt8.ofNat n).toNat = n := UInt8.toNat_ofNat_of_lt' (show n < 256 by omega)
  have less : UInt8.ofNat n < 251 := by
    rw [UInt8.lt_iff_toNat_lt, byte]
    exact small
  rw [readNumber, if_pos less, byte]

theorem numberReads {n : Nat} (fits : n < UInt64.size) : Reads readNumber writeNumber n := by
  intro rest
  unfold writeNumber
  split
  · rename_i small
    exact readNumberSmall small rest
  · split
    · rename_i two
      exact @readWideWritten 2 n two rest
    · split
      · rename_i four
        exact @readWideWritten 4 n four rest
      · exact @readWideWritten 8 n fits rest

theorem countReads (n : UInt64) : Reads readCount writeCount n := by
  intro rest
  rw [readCount, writeCount, numberReads n.toNat_lt_size, Option.map_some]
  dsimp only
  rw [UInt64.ofNat_toNat]

theorem textBytes (s : String) : s.toUTF8.data.toList.length = s.utf8ByteSize := rfl

theorem textOfBytes (s : String) : String.fromUTF8? s.toUTF8.data.toList.toByteArray = some s := by
  have same : s.toUTF8.data.toList.toByteArray = s.toByteArray := by
    apply ByteArray.ext
    rw [List.data_toByteArray]
    exact s.toByteArray.data.toArray_toList
  rw [same, String.fromUTF8?, dif_pos s.isValidUTF8]
  rfl

theorem textReads {s : String} (fits : s.utf8ByteSize < UInt64.size) : Reads readText writeText s := by
  intro rest
  rw [← textBytes] at fits
  rw [readText, writeText, List.append_assoc]
  simp only [numberReads fits _, splitExactlyAppend rfl, textOfBytes, bind, Option.bind, pure]

variable {read : Reader α} {write : α → Bytes}

theorem optionReads {o : Option α} (each : ∀ a ∈ o, Reads read write a) :
    Reads (readOption read) (writeOption write) o := by
  intro rest
  cases o with
  | none => rfl
  | some a => rw [writeOption, List.cons_append, readOption, each a rfl rest, Option.map_some]

theorem itemsRead {items : List α} (each : ∀ a ∈ items, Reads read write a) (rest : Bytes) :
    readItems read items.length (items.flatMap write ++ rest) = some (items, rest) := by
  induction items with
  | nil => rfl
  | cons a items ih =>
    have first := each a List.mem_cons_self (items.flatMap write ++ rest)
    have others := ih fun b inside => each b (List.mem_cons_of_mem a inside)
    rw [List.flatMap_cons, List.append_assoc, List.length_cons, readItems]
    simp only [first, others, bind, Option.bind, pure]

theorem listReads {items : List α} (fits : items.length < UInt64.size)
    (each : ∀ a ∈ items, Reads read write a) : Reads (readList read) (writeList write) items := by
  intro rest
  rw [readList, writeList, List.append_assoc]
  simp only [numberReads fits _, itemsRead each, bind, Option.bind]

theorem utf8ByteSizeBound (chars : List Char) : (String.ofList chars).utf8ByteSize ≤ 4 * chars.length := by
  induction chars with
  | nil => simp
  | cons c chars ih =>
    have wide := c.utf8Size_le_four
    rw [String.ofList_cons, String.utf8ByteSize_append, String.utf8ByteSize_singleton, List.length_cons]
    omega

theorem instantReads (t : Instant) : Reads readInstant writeInstant t := by
  intro rest
  have size := utf8ByteSizeBound t.write
  have length := Time.writeLength t
  have fits : t.text.utf8ByteSize < UInt64.size := by
    simp only [Instant.text, UInt64.size]
    omega
  have characters : t.text.toList = t.write := String.toList_ofList
  rw [readInstant, writeInstant]
  simp only [textReads fits rest, characters, Time.readLenientWrite, bind, Option.bind, pure]

theorem sentimentReads (s : Option Sentiment) : Reads readSentiment writeSentiment s := by
  intro rest
  have short : ∀ name ∈ s.map (·.name), Reads readText writeText name := by
    intro name found
    obtain ⟨s, -, rfl⟩ := Option.map_eq_some_iff.1 found
    exact textReads (by cases s <;> decide)
  rw [readSentiment, writeSentiment]
  simp only [optionReads short rest, bind, Option.bind, pure]
  cases s with
  | none => rfl
  | some s => simp only [Option.map_some, Sentiment.ofLabelName]

theorem postReads {p : Post} (fits : p.LengthsFit) : Reads readPost writePost p := by
  intro rest
  have url := @optionReads _ readText writeText p.url fun url found => textReads (fits.url url found)
  have district := @optionReads _ readText writeText p.district fun d found => textReads (fits.district d found)
  rw [readPost, writePost]
  simp only [List.append_assoc, textReads fits.id _, textReads fits.text _, textReads fits.username _, url _,
    countReads _ _, sentimentReads _ _, instantReads _ _, district _, bind, Option.bind, pure]

theorem metadataReads {m : Metadata} (fits : m.version.utf8ByteSize < UInt64.size) :
    Reads readMetadata writeMetadata m := by
  intro rest
  have earliest := @optionReads _ readInstant writeInstant m.earliest fun t _ => instantReads t
  have latest := @optionReads _ readInstant writeInstant m.latest fun t _ => instantReads t
  rw [readMetadata, writeMetadata]
  simp only [List.append_assoc, countReads _ _, instantReads _ _, earliest _, latest _, textReads fits _,
    bind, Option.bind, pure]

theorem postsRead {posts : List Post} (count : posts.length < UInt64.size) (fits : ∀ p ∈ posts, p.LengthsFit) :
    Reads readPosts writePosts posts :=
  listReads count fun p inside => postReads (fits p inside)

theorem snapshotReads {s : Snapshot} (fits : s.LengthsFit) : Reads readSnapshot writeSnapshot s := by
  intro rest
  rw [readSnapshot, writeSnapshot]
  simp only [List.append_assoc, metadataReads fits.version _, postsRead fits.count fits.posts _,
    bind, Option.bind, pure]

theorem numberWritten (n : Nat) : 0 < (writeNumber n).length := by
  unfold writeNumber
  split
  · exact Nat.zero_lt_succ _
  · split
    · exact Nat.zero_lt_succ _
    · split <;> exact Nat.zero_lt_succ _

theorem textShorter (s : String) : s.utf8ByteSize < (writeText s).length := by
  have number := numberWritten s.utf8ByteSize
  rw [writeText, List.length_append, textBytes]
  omega

theorem optionalTextShorter {o : Option String} {s : String} (found : s ∈ o) :
    s.utf8ByteSize < (writeOption writeText o).length := by
  have text := textShorter s
  rw [Option.mem_def.1 found, writeOption, List.length_cons]
  omega

theorem itemsCounted {items : List α} (written : ∀ a, 0 < (write a).length) :
    items.length ≤ (items.flatMap write).length := by
  induction items with
  | nil => exact Nat.le_refl _
  | cons a items ih =>
    have first := written a
    rw [List.flatMap_cons, List.length_append, List.length_cons]
    omega

theorem itemShorter {items : List α} {a : α} (inside : a ∈ items) :
    (write a).length ≤ (items.flatMap write).length := by
  induction items with
  | nil => contradiction
  | cons b items ih =>
    rw [List.flatMap_cons, List.length_append]
    rcases List.mem_cons.1 inside with rfl | later
    · exact Nat.le_add_right _ _
    · have rest := ih later
      omega

theorem postWritten (p : Post) : 0 < (writePost p).length := by
  have id := textShorter p.id
  simp only [writePost, List.length_append]
  omega

theorem postLengthsFit {p : Post} (short : (writePost p).length < UInt64.size) : p.LengthsFit := by
  have id := textShorter p.id
  have text := textShorter p.text
  have username := textShorter p.username
  simp only [writePost, List.length_append] at short
  refine ⟨by omega, by omega, by omega, fun url found => ?_, fun district found => ?_⟩
  · have url := optionalTextShorter found
    omega
  · have district := optionalTextShorter found
    omega

/- No part is longer than the whole, so one bound on the whole serves for every part. -/
theorem snapshotLengthsFit {s : Snapshot} (short : (writeSnapshot s).length < UInt64.size) : s.LengthsFit := by
  have version := textShorter s.metadata.version
  have count := @itemsCounted _ writePost s.posts postWritten
  simp only [writeSnapshot, writeMetadata, writePosts, writeList, List.length_append] at short
  refine ⟨by omega, by omega, fun p inside => postLengthsFit ?_⟩
  have post := @itemShorter _ writePost _ _ inside
  omega

end Binary
end Postboard
