import Postboard.Post.Json
import Postboard.Proofs.Json.Fields

/-! Whole numbers as they stand in JSON. A number of the grammar is read as a whole number of 64 bits exactly when it
is written like that number in decimal, so neither a fraction nor an exponent nor minus zero ever is one. -/
namespace Postboard.Json
open Text

theorem digitOfValue {c : Char} (digit : isAsciiDigit c) :
    c.toNat - '0'.toNat < 10 ∧ Nat.digitChar (c.toNat - '0'.toNat) = c := by
  rw [asciiDigitIff, Char.isDigit_iff_toNat] at digit
  have zero : '0'.toNat = 48 := rfl
  have nine : '9'.toNat = 57 := rfl
  have value : c.toNat - '0'.toNat < 10 := by omega
  refine ⟨value, Char.toNat_inj.1 ?_⟩
  rw [Nat.toNat_digitChar_of_lt_ten value]
  omega

theorem toDigitsLonger {digits : List Char} (each : ∀ c ∈ digits, isAsciiDigit c) {n : Nat} (positive : 0 < n) :
    Nat.toDigits 10 n ++ digits = Nat.toDigits 10 (Nat.ofDigitChars 10 digits n) := by
  induction digits generalizing n with
  | nil => rw [List.append_nil, Nat.ofDigitChars_nil]
  | cons c digits ih =>
    obtain ⟨value, same⟩ := digitOfValue (each c List.mem_cons_self)
    have next : Nat.toDigits 10 n ++ [c] = Nat.toDigits 10 (10 * n + (c.toNat - '0'.toNat)) := by
      rw [← Nat.toDigits_append_toDigits (by decide) positive value, Nat.toDigits_of_lt_base value, same]
    rw [Nat.ofDigitChars_cons, ← ih (fun d inside => each d (List.mem_cons_of_mem c inside)) (by omega), ← next,
      List.append_assoc, List.singleton_append]

theorem toDigitsOfWhole {n : Number} (formed : n.Formed) : Nat.toDigits 10 (decimalValue n.whole) = n.whole := by
  rcases formed.whole with zero | ⟨digits, start⟩
  · rw [zero]
    rfl
  · obtain ⟨c, r, whole⟩ := List.exists_cons_of_ne_nil digits.present
    rw [whole] at digits start ⊢
    obtain ⟨value, same⟩ := digitOfValue (digits.each c List.mem_cons_self)
    have positive : 0 < c.toNat - '0'.toNat := by
      refine Nat.pos_of_ne_zero fun zero => start ?_
      rw [← same, zero]
      rfl
    have longer := toDigitsLonger (fun d inside => digits.each d (List.mem_cons_of_mem c inside)) positive
    rw [Nat.toDigits_of_lt_base value, same, List.singleton_append] at longer
    rw [decimalValue, Nat.ofDigitChars_cons, Nat.mul_zero, Nat.zero_add, ← longer]

def InWord (i : Int) : Prop := -2 ^ 63 ≤ i ∧ i < 2 ^ 64

instance (i : Int) : Decidable (InWord i) := inferInstanceAs (Decidable (_ ∧ _))

namespace Number

def ofInt (i : Int) : Number := { negative := i < 0, whole := Nat.toDigits 10 i.natAbs }

theorem ofIntFormed (i : Int) : (ofInt i).Formed :=
  ⟨(ofNatFormed i.natAbs).whole, (ofNatFormed i.natAbs).fraction, (ofNatFormed i.natAbs).exponent⟩

theorem writeOfInt (i : Int) : (ofInt i).write = (toString i).toList := by
  cases i with
  | ofNat n => simp [write, ofInt, toString, Int.repr]
  | negSucc n => simp [write, ofInt, toString, Int.repr]

theorem ofIntInjective {i j : Int} (same : ofInt i = ofInt j) : i = j := by
  have sign : i < 0 ↔ j < 0 := by simpa [ofInt] using congrArg negative same
  have size : i.natAbs = j.natAbs := by
    have digits := congrArg (fun n => decimalValue n.whole) same
    rwa [ofInt, ofInt, decimalValueDigits, decimalValueDigits] at digits
  omega

theorem writtenLikeIff {n : Number} (formed : n.Formed) {i : Int} : n.write = (toString i).toList ↔ n = ofInt i := by
  rw [← writeOfInt]
  constructor
  · intro same
    have ends : Ends isNumberPart [] := by simp [Ends]
    have read := numberReadBack formed ends
    rw [same, numberReadBack (ofIntFormed i) ends] at read
    exact (Prod.mk.inj (Option.some.inj read)).1.symm
  · exact congrArg write

theorem integerOfInt {i : Int} (fits : InWord i) : (ofInt i).integer? = some i := by
  have value : decimalValue (Nat.toDigits 10 i.natAbs) = i.natAbs := decimalValueDigits _
  obtain ⟨low, high⟩ := fits
  by_cases below : i < 0
  · have bounds : 0 < i.natAbs ∧ i.natAbs ≤ 0x8000000000000000 := by omega
    have back : -(i.natAbs : Int) = i := by omega
    simp only [integer?, ofInt, isWhole, value, below, bounds, back, decide_true, and_self, ↓reduceIte, List.isEmpty_nil,
      Option.isNone_none, Bool.and_self, Bool.true_eq_false]
  · have bound : i.natAbs < UInt64.size := by simp only [UInt64.size]; omega
    have back : (i.natAbs : Int) = i := by omega
    simp only [integer?, ofInt, isWhole, value, below, bound, back, decide_false, ↓reduceIte, List.isEmpty_nil,
      Option.isNone_none, Bool.and_self, Bool.true_eq_false, Bool.false_eq_true]

theorem ofIntegerRead {n : Number} (formed : n.Formed) {i : Int} (read : n.integer? = some i) :
    InWord i ∧ n = ofInt i := by
  have digits := toDigitsOfWhole formed
  obtain ⟨negative, whole, fraction, exponent⟩ := n
  simp only [integer?] at read digits
  split at read
  · contradiction
  · rename_i plain
    have parts : fraction = [] ∧ exponent = none := by simpa [isWhole] using plain
    obtain ⟨rfl, rfl⟩ := parts
    cases negative with
    | true =>
      rw [if_pos rfl] at read
      split at read
      · rename_i bounds
        cases read
        have below : -(decimalValue whole : Int) < 0 := by omega
        refine ⟨⟨by omega, by omega⟩, ?_⟩
        rw [ofInt, Int.natAbs_neg, Int.natAbs_natCast, digits, decide_eq_true below]
      · contradiction
    | false =>
      rw [if_neg Bool.false_ne_true] at read
      split at read
      · rename_i bound
        cases read
        have above : ¬(decimalValue whole : Int) < 0 := by omega
        refine ⟨⟨by omega, by simp only [UInt64.size] at bound; omega⟩, ?_⟩
        rw [ofInt, Int.natAbs_natCast, digits, decide_eq_false above]
      · contradiction

theorem integerIff {n : Number} (formed : n.Formed) {i : Int} :
    n.integer? = some i ↔ InWord i ∧ n.write = (toString i).toList := by
  rw [writtenLikeIff formed]
  constructor
  · exact ofIntegerRead formed
  · rintro ⟨fits, rfl⟩
    exact integerOfInt fits

end Number
end Postboard.Json
