import Mathlib
import Postboard.Json.Fields
import Postboard.Proofs.Json.Written

/-! Readers of JSON values that undo a writer, from the readers of the parts. A reader may take more than
its writer writes, about which nothing is said. -/
namespace Postboard.Json
open Text

theorem toDigitsStart {n : Nat} (positive : 0 < n) : (Nat.toDigits 10 n).head? ≠ some '0' := by
  induction n using Nat.strongRecOn with
  | ind n ih =>
    by_cases short : n < 10
    · rw [Nat.toDigits_of_lt_base short]
      interval_cases n <;> decide
    · have fewer := ih (n / 10) (by omega) (by omega)
      rw [Nat.toDigits_of_base_le (by decide) (by omega), List.head?_append_of_ne_nil _ Nat.toDigits_ne_nil]
      exact fewer

theorem ofNatFormed (n : Nat) : (Number.ofNat n).Formed where
  whole := by
    rcases Nat.eq_zero_or_pos n with rfl | positive
    · exact .inl rfl
    · refine .inr ⟨⟨Nat.toDigits_ne_nil, fun c inside => ?_⟩, toDigitsStart positive⟩
      rw [asciiDigitIff]
      exact Nat.isDigit_of_mem_toDigits (by decide) (by decide) inside
  fraction := by simp [Number.ofNat]
  exponent := by simp [Number.ofNat]

theorem decimalValueDigits (n : Nat) : decimalValue (Nat.toDigits 10 n) = n := by
  simp [decimalValue]

section Slots
variable {α : Type} {default : α} {decode : Value → Option α} {v : Value}

@[simp] theorem requiredGiven : (Slot.given v).required decode = decode v := rfl

@[simp] theorem orElseGiven : (Slot.given v).orElse default decode = decode v := rfl

@[simp] theorem orMissingGiven : (Slot.given v).orMissing default decode = decode v := rfl

end Slots

structure Undoes (decode : Value → Option α) (encode : α → Value) : Prop where
  decoded : ∀ a, decode (encode a) = some a
  formed : ∀ a, (encode a).Formed

namespace Undoes

theorem string : Undoes Value.string? Value.ofString := ⟨fun _ => rfl, fun s => .string (some s)⟩

theorem bool : Undoes Value.bool? Value.bool := ⟨fun _ => rfl, .bool⟩

theorem count : Undoes Value.natural? fun n : UInt64 => .ofNat n.toNat where
  decoded n := by
    have fits := n.toNat_lt_size
    simp [Value.ofNat, Value.natural?, Number.natural?, Number.ofNat, Number.isWhole, decimalValueDigits, fits]
  formed n := .number (ofNatFormed n.toNat)

section Cases
variable {α : Type} {name : α → String} {ofName? : String → Option α}

theorem named (back : ∀ a, ofName? (name a) = some a) :
    Undoes (fun v => v.caseName?.bind ofName?) fun a => .ofString (name a) :=
  ⟨back, fun a => .string (some (name a))⟩

theorem held (back : ∀ a, ofName? (name a) = some a) :
    Undoes (fun v => v.heldCaseName?.bind ofName?) fun a => .ofString (name a) :=
  ⟨back, fun a => .string (some (name a))⟩

end Cases

variable {α : Type} {decode : Value → Option α} {encode : α → Value}

theorem option (each : Undoes decode encode) (present : ∀ a, encode a ≠ .null) :
    Undoes (Value.option? decode) (Value.ofOption encode) where
  decoded o := by
    cases o with
    | none => rfl
    | some a =>
      have back := each.decoded a
      unfold Value.ofOption Value.option?
      split
      · exact absurd ‹_› (present a)
      · rw [back, Option.map_some]
  formed o := by
    cases o with
    | none => exact .null
    | some a => exact each.formed a

theorem list (each : Undoes decode encode) : Undoes (Value.list? decode) fun as => .array (as.map encode) where
  decoded as := by
    induction as with
    | nil => rfl
    | cons a as ih =>
      simp only [Value.list?, List.map_cons] at ih ⊢
      simp [each.decoded a, ih]
  formed as := by
    refine .array fun v inside => ?_
    obtain ⟨a, -, rfl⟩ := List.mem_map.1 inside
    exact each.formed a

theorem text (undone : Undoes decode encode) (a : α) : (Value.parse? (encode a).text).bind decode = some a := by
  rw [Value.parseText (undone.formed a), Option.bind_some, undone.decoded a]

end Undoes

theorem recordFormed {members : List (String × Value)} (each : ∀ m ∈ members, m.2.Formed) :
    (Value.record members).Formed := by
  refine .object fun m inside => ?_
  obtain ⟨m, found, rfl⟩ := List.mem_map.1 inside
  exact each m found

theorem ofDigitCharsGrows (digits : List Char) (significand : Nat) :
    significand ≤ Nat.ofDigitChars 10 digits significand := by
  induction digits generalizing significand with
  | nil => exact Nat.le_refl significand
  | cons c digits ih =>
    rw [Nat.ofDigitChars_cons]
    have rest := ih (10 * significand + (c.toNat - '0'.toNat))
    omega

theorem gatherAll {digits : List Char} {significand : Nat}
    (fits : Nat.ofDigitChars 10 digits significand < UInt64.size) :
    Number.gather significand digits = (Nat.ofDigitChars 10 digits significand, []) := by
  induction digits generalizing significand with
  | nil => rfl
  | cons c digits ih =>
    have next : significand * 10 + decimalValue [c] = 10 * significand + (c.toNat - '0'.toNat) := by
      simp [decimalValue, Nat.ofDigitChars_cons, Nat.mul_comm]
    rw [Nat.ofDigitChars_cons] at fits ⊢
    have grows := ofDigitCharsGrows digits (10 * significand + (c.toNat - '0'.toNat))
    rw [Number.gather, next, if_pos (Nat.lt_of_le_of_lt grows fits), ih fits]

theorem countFinite (n : UInt64) : (Number.ofNat n.toNat).isFinite := by
  have fits : Nat.ofDigitChars 10 (Nat.toDigits 10 n.toNat) 0 < UInt64.size := by
    rw [Nat.ofDigitChars_ten_toDigits]
    exact n.toNat_lt_size
  simp [Number.isFinite, Number.ofNat, Number.isWhole, gatherAll fits]

end Postboard.Json
