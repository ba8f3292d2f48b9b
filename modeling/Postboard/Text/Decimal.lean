import Postboard.Text.DecimalDigit

/-! Numbers in decimal digits. -/
namespace Postboard.Text

def decimalValue (digits : List Char) : Nat := Nat.ofDigitChars 10 digits 0

def padded (width n : Nat) : List Char :=
  let digits := Nat.toDigits 10 n
  List.replicate (width - digits.length) '0' ++ digits

def readNumber (width : Nat) (s : List Char) : Option (Nat × List Char) :=
  let digits := (s.take width).takeWhile isAsciiDigit
  if digits.isEmpty then none else some (decimalValue digits, s.drop digits.length)

def readExactly (width : Nat) (s : List Char) : Option (Nat × List Char) :=
  let digits := s.take width
  if digits.length = width ∧ digits.all isAsciiDigit then some (decimalValue digits, s.drop width) else none

theorem decimalValuePadded (width n : Nat) : decimalValue (padded width n) = n := by
  simp [decimalValue, padded, Nat.ofDigitChars_append]

theorem asciiDigitIff (c : Char) : isAsciiDigit c = c.isDigit := by
  simp only [isAsciiDigit, Char.isDigit]
  rfl

theorem paddedDigits {width n : Nat} : ∀ c ∈ padded width n, isAsciiDigit c := by
  intro c hc
  simp only [padded, List.mem_append, List.mem_replicate] at hc
  rcases hc with ⟨_, rfl⟩ | hc
  · decide
  · rw [asciiDigitIff]
    exact Nat.isDigit_of_mem_toDigits (by decide) (by decide) hc

end Postboard.Text
