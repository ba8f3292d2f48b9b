import Mathlib
import Postboard.Text.Blank
import Postboard.Text.Decimal

/-! Padded numbers as they are read again. A reader stops after as many digits as it may take, or at
the first character that is no digit, whichever comes first. -/
namespace Postboard.Text

theorem paddedLength {width n : Nat} (positive : 0 < width) (fits : n < 10 ^ width) :
    (padded width n).length = width := by
  have short := (Nat.length_toDigits_le_iff (by omega) positive).2 fits
  simp only [padded, List.length_append, List.length_replicate]
  omega

theorem paddedAtMost {width limit n : Nat} (positive : 0 < limit) (wide : width ≤ limit) (fits : n < 10 ^ limit) :
    (padded width n).length ≤ limit := by
  have short := (Nat.length_toDigits_le_iff (by omega) positive).2 fits
  simp only [padded, List.length_append, List.length_replicate]
  omega

theorem paddedNonempty (width n : Nat) : padded width n ≠ [] := by
  simp [padded, Nat.toDigits_ne_nil]

theorem digitNotBlank {c : Char} (digit : isAsciiDigit c) : isBlank c = false := by
  simp only [isAsciiDigit, Bool.and_eq_true, decide_eq_true_eq] at digit
  have low : 48 ≤ c.toNat := digit.1
  have high : c.toNat ≤ 57 := digit.2
  simp only [isBlank, Bool.or_eq_false_iff, Bool.and_eq_false_iff, decide_eq_false_iff_not, beq_eq_false_iff_ne]
  omega

theorem paddedStart (width n : Nat) : ∃ c r, padded width n = c :: r ∧ isAsciiDigit c := by
  obtain ⟨c, r, same⟩ := List.exists_cons_of_ne_nil (paddedNonempty width n)
  exact ⟨c, r, same, paddedDigits c (same ▸ List.mem_cons_self)⟩

theorem trimStartPadded (width n : Nat) (rest : List Char) :
    trimStart (padded width n ++ rest) = padded width n ++ rest := by
  obtain ⟨c, r, same, digit⟩ := paddedStart width n
  rw [same, List.cons_append, trimStartOfNotBlank (digitNotBlank digit)]

theorem readNumberExact {width n : Nat} (positive : 0 < width) (fits : n < 10 ^ width) (rest : List Char) :
    readNumber width (padded width n ++ rest) = some (n, rest) := by
  have length := paddedLength positive fits
  have taken : (padded width n ++ rest).take width = padded width n := by
    exact List.take_left' length
  have digits : (padded width n).takeWhile isAsciiDigit = padded width n :=
    List.takeWhile_eq_self_iff.2 paddedDigits
  simp [readNumber, taken, digits, paddedNonempty, decimalValuePadded, length]

theorem readExactlyPadded {width n : Nat} (positive : 0 < width) (fits : n < 10 ^ width) (rest : List Char) :
    readExactly width (padded width n ++ rest) = some (n, rest) := by
  have length := paddedLength positive fits
  have digits : (padded width n).all isAsciiDigit := List.all_eq_true.2 paddedDigits
  simp only [readExactly, List.take_left' length, List.drop_left' length, length, digits, and_self, ↓reduceIte,
    decimalValuePadded]

theorem readNumberOpen {width limit n : Nat} {rest : List Char} (fits : (padded width n).length ≤ limit)
    (stop : ∀ c ∈ rest.head?, isAsciiDigit c = false) : readNumber limit (padded width n ++ rest) = some (n, rest) := by
  have digits : ((padded width n ++ rest).take limit).takeWhile isAsciiDigit = padded width n := by
    rw [List.take_append, List.take_of_length_le fits, List.takeWhile_append_of_pos paddedDigits]
    cases rest with
    | nil => simp
    | cons c r => cases (limit - (padded width n).length) <;> simp [stop c rfl]
  simp [readNumber, digits, paddedNonempty, decimalValuePadded]

end Postboard.Text
