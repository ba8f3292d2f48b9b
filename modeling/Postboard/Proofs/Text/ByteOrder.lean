import Mathlib
import Postboard.Proofs.Text.Search

/-! The order of texts is the order of their bytes. Of two characters the lesser one has the lesser bytes, whatever
follows either, because a longer form begins with a greater byte and forms of one length list the digits to base 64. -/
namespace Postboard.Text
open Wildcard (utf8 utf8Cons)

def bytesOf (text : String) : List UInt8 := text.toUTF8.data.toList

theorem bytesUtf8 (text : String) : bytesOf text = utf8 text.toList := by
  have bytes : text.toUTF8 = (utf8 text.toList).toByteArray := String.utf8Encode_toList.symm
  rw [bytesOf, bytes, List.data_toByteArray]

theorem digitLt {v w : Nat} (below : v < w) : v / 64 < w / 64 ∨ v / 64 = w / 64 ∧ v % 64 < w % 64 := by
  omega

theorem digitsLt {v w : Nat} (below : v < w) : v / 262144 < w / 262144 ∨ v / 262144 = w / 262144 ∧
    (v / 4096 % 64 < w / 4096 % 64 ∨ v / 4096 % 64 = w / 4096 % 64 ∧
      (v / 64 % 64 < w / 64 % 64 ∨ v / 64 % 64 = w / 64 % 64 ∧ v % 64 < w % 64)) := by
  have two : ∀ n, n / 4096 = n / 64 / 64 := by omega
  have three : ∀ n, n / 262144 = n / 64 / 64 / 64 := by omega
  simp only [two, three]
  rcases digitLt below with up | ⟨same, low⟩
  · rcases digitLt up with up | ⟨same, low⟩
    · rcases digitLt up with up | ⟨same, low⟩
      · exact .inl up
      · exact .inr ⟨same, .inl low⟩
    · exact .inr ⟨congrArg (· / 64) same, .inr ⟨congrArg (· % 64) same, .inl low⟩⟩
  · exact .inr ⟨congrArg (· / 64 / 64) same, .inr ⟨congrArg (· / 64 % 64) same, .inr ⟨congrArg (· % 64) same, low⟩⟩⟩

theorem encodeCharLt {c d : Char} (lt : c < d) (a b : List UInt8) :
    String.utf8EncodeChar c ++ a < String.utf8EncodeChar d ++ b := by
  have below : c.val.toNat < d.val.toNat := UInt32.lt_iff_toNat_lt.1 lt
  have last : d.val.toNat < 0x110000 := by
    rcases d.valid with low | high <;> omega
  have digits := digitsLt below
  unfold String.utf8EncodeChar
  generalize c.val.toNat = v at below digits
  generalize d.val.toNat = w at below digits last
  -- No byte of a form is cut.
  have next : ∀ n, (n % 64 + 128) % 256 = n % 64 + 128 := by omega
  have firstOfTwo : ∀ n, (n % 32 + 192) % 256 = n % 32 + 192 := by omega
  have firstOfThree : ∀ n, (n % 16 + 224) % 256 = n % 16 + 224 := by omega
  have firstOfFour : ∀ n ≤ w, (n / 262144 % 8 + 240) % 256 = n / 262144 + 240 := by omega
  have vFirst := firstOfFour v (Nat.le_of_lt below)
  have wFirst := firstOfFour w (Nat.le_refl w)
  dsimp only
  split_ifs <;>
    simp only [List.cons_append, List.nil_append, List.cons_lt_cons_iff, UInt8.lt_iff_toNat_lt, ← UInt8.toNat_inj,
      UInt8.toNat_ofNat', Nat.reducePow, next, firstOfTwo, firstOfThree, vFirst, wFirst] <;>
    omega

theorem utf8Lt {a b : List Char} (lt : a < b) : utf8 a < utf8 b := by
  induction a generalizing b with
  | nil =>
    cases b with
    | nil => exact absurd lt (List.lt_irrefl [])
    | cons d b =>
      obtain ⟨first, rest, bytes⟩ := List.exists_cons_of_ne_nil (@String.utf8EncodeChar_ne_nil d)
      rw [utf8Cons, bytes]
      exact List.nil_lt_cons _ _
  | cons c a ih =>
    cases b with
    | nil => exact absurd lt (List.not_lt_nil _)
    | cons d b =>
      rw [utf8Cons, utf8Cons]
      rcases List.cons_lt_cons_iff.1 lt with first | ⟨rfl, rest⟩
      · exact encodeCharLt first _ _
      · exact List.append_left_lt (ih rest)

theorem bytesLt {a b : String} (lt : a < b) : bytesOf a < bytesOf b := by
  rw [bytesUtf8, bytesUtf8]
  exact utf8Lt (String.lt_iff_toList_lt.1 lt)

end Postboard.Text
