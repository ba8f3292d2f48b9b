import Mathlib
import Postboard.Json.Reader
import Postboard.Text.Percent

/-! Percent-encoding undone. A text of any characters comes back, and what stands for it has no mark that
an address gives a meaning to. -/
namespace Postboard.Text.Percent

open Json (hexValue?)

def bytesOf? : List Char → Option (List UInt8)
  | [] => some []
  | '%' :: a :: b :: r => do
    let high ← hexValue? a
    let low ← hexValue? b
    return UInt8.ofNat (high * 16 + low) :: (← bytesOf? r)
  | c :: r => if c = '%' then none else (bytesOf? r).map (String.utf8EncodeChar c ++ ·)

def decode? (s : List Char) : Option String := (bytesOf? s).bind fun bytes => String.fromUTF8? bytes.toByteArray

theorem hexDigitRead {n : Nat} (digit : n < 16) : hexValue? (hexDigit n) = some n ∧ isPlain (hexDigit n) := by
  have all : ∀ n, n < 16 → hexValue? (hexDigit n) = some n ∧ isPlain (hexDigit n) := by decide
  exact all n digit

theorem bytesOfByte (b : UInt8) (rest : List Char) :
    bytesOf? (encodeByte b ++ rest) = (bytesOf? rest).map (b :: ·) := by
  have bound := b.toNat_lt
  have high := (hexDigitRead (show b.toNat / 16 < 16 by omega)).1
  have low := (hexDigitRead (show b.toNat % 16 < 16 by omega)).1
  have whole : UInt8.ofNat (b.toNat / 16 * 16 + b.toNat % 16) = b := by
    rw [Nat.div_add_mod', UInt8.ofNat_toNat]
  simp only [encodeByte, List.cons_append, List.nil_append, bytesOf?, high, low, whole, bind, Option.bind]
  cases bytesOf? rest <;> rfl

theorem bytesOfBytes (bytes : List UInt8) (rest : List Char) :
    bytesOf? (bytes.flatMap encodeByte ++ rest) = (bytesOf? rest).map (bytes ++ ·) := by
  induction bytes with
  | nil => simp
  | cons b bytes ih =>
    rw [List.flatMap_cons, List.append_assoc, bytesOfByte, ih, Option.map_map]
    rfl

theorem bytesOfPlain {c : Char} (plain : c ≠ '%') (rest : List Char) :
    bytesOf? (c :: rest) = (bytesOf? rest).map (String.utf8EncodeChar c ++ ·) := by
  rw [bytesOf?.eq_def]
  split
  · contradiction
  · rename_i same
    exact absurd (List.cons.inj same).1 plain
  · rename_i same
    obtain ⟨rfl, rfl⟩ := List.cons.inj same
    rw [if_neg plain]

theorem bytesOfChar (c : Char) (rest : List Char) :
    bytesOf? (encodeChar c ++ rest) = (bytesOf? rest).map (String.utf8EncodeChar c ++ ·) := by
  unfold encodeChar
  split
  · rename_i plain
    refine bytesOfPlain ?_ rest
    rintro rfl
    contradiction
  · exact bytesOfBytes _ rest

theorem bytesOfEncode (s : List Char) : bytesOf? (encode s) = some (s.flatMap String.utf8EncodeChar) := by
  induction s with
  | nil => rfl
  | cons c s ih =>
    rw [encode, List.flatMap_cons, bytesOfChar]
    rw [encode] at ih
    rw [ih, Option.map_some, List.flatMap_cons]

theorem utf8Decoded (s : String) : String.fromUTF8? s.toByteArray = some s := by
  rw [String.fromUTF8?, dif_pos s.isValidUTF8]
  rfl

theorem decodeEncode (s : String) : decode? (encode s.toList) = some s := by
  have bytes : (s.toList.flatMap String.utf8EncodeChar).toByteArray = s.toByteArray := by
    have encoded := @String.toByteArray_ofList s.toList
    rw [String.ofList_toList] at encoded
    exact encoded.symm
  rw [decode?, bytesOfEncode, Option.bind_some, bytes, utf8Decoded]

theorem encodedCharacters {s : List Char} {c : Char} (inside : c ∈ encode s) : c = '%' ∨ isPlain c := by
  obtain ⟨d, -, inside⟩ := List.mem_flatMap.1 inside
  unfold encodeChar at inside
  split at inside
  · rename_i plain
    rw [List.mem_singleton.1 inside]
    exact .inr plain
  · obtain ⟨b, -, inside⟩ := List.mem_flatMap.1 inside
    have bound := b.toNat_lt
    simp only [encodeByte, List.mem_cons, List.not_mem_nil, or_false] at inside
    obtain rfl | rfl | rfl := inside
    · exact .inl rfl
    · exact .inr (hexDigitRead (by omega)).2
    · exact .inr (hexDigitRead (by omega)).2

theorem encodedApart {mark : Char} (special : mark ≠ '%' ∧ isPlain mark = false) (s : List Char) :
    mark ∉ encode s := by
  intro inside
  rcases encodedCharacters inside with percent | plain
  · exact special.1 percent
  · rw [special.2] at plain
    contradiction

end Postboard.Text.Percent
