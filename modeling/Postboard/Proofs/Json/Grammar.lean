import Postboard.Proofs.Json.Written

/-! What the reader takes is of the grammar: the numbers of every value that is read off a text have all their
digits and none too many. How the text was laid out is not kept. -/
namespace Postboard.Json
open Text

variable {s rest : List Char}

theorem readDigitsFormed {digits : List Char} (read : readDigits s = some (digits, rest)) : Digits digits := by
  unfold readDigits at read
  dsimp only at read
  split at read
  · contradiction
  · rename_i some
    cases read
    exact ⟨fun none => some (List.isEmpty_iff.2 none), List.all_eq_true.1 List.all_takeWhile⟩

theorem readDigitsStart {digits : List Char} (read : readDigits s = some (digits, rest)) : digits.head? = s.head? := by
  have formed := readDigitsFormed read
  unfold readDigits at read
  dsimp only at read
  split at read
  · contradiction
  · cases read
    cases s with
    | nil => rfl
    | cons c s =>
      by_cases digit : isAsciiDigit c
      · rw [List.takeWhile_cons_of_pos digit]
        rfl
      · exact absurd (List.takeWhile_cons_of_neg digit) formed.present

theorem readWholeFormed {whole : List Char} (read : readWhole s = some (whole, rest)) :
    whole = ['0'] ∨ (Digits whole ∧ whole.head? ≠ some '0') := by
  unfold readWhole at read
  split at read
  · cases read
    exact .inl rfl
  · rename_i other
    refine .inr ⟨readDigitsFormed read, fun zero => ?_⟩
    rw [readDigitsStart read] at zero
    obtain ⟨r, same⟩ := List.head?_eq_some_iff.1 zero
    exact other r same

theorem readFractionFormed {fraction : List Char} (read : readFractionDigits s = some (fraction, rest)) :
    ∀ c ∈ fraction, isAsciiDigit c := by
  unfold readFractionDigits at read
  split at read
  · exact (readDigitsFormed read).each
  · cases read
    exact fun c inside => absurd inside List.not_mem_nil

theorem signedFormed {negative : Bool} {exponent : Option (Bool × List Char)}
    (read : (readDigits s).map (fun (digits, rest) => (some (negative, digits), rest)) = some (exponent, rest)) :
    ∀ e ∈ exponent, Digits e.2 := by
  obtain ⟨⟨digits, after⟩, found, same⟩ := Option.map_eq_some_iff.1 read
  cases same
  rintro e ⟨⟩
  exact readDigitsFormed found

theorem readExponentFormed {exponent : Option (Bool × List Char)} (read : readExponent s = some (exponent, rest)) :
    ∀ e ∈ exponent, Digits e.2 := by
  unfold readExponent at read
  split at read
  · split at read
    · split at read <;> exact signedFormed read
    · cases read
      exact fun e inside => nomatch inside
  · cases read
    exact fun e inside => nomatch inside

theorem readNumberFormed {n : Number} (read : readNumber s = some (n, rest)) : n.Formed := by
  simp only [readNumber, bind, Option.bind_eq_some_iff, pure, Option.some.injEq, Prod.exists] at read
  obtain ⟨whole, _, readWhole, fraction, _, readFraction, exponent, _, readExponent, same⟩ := read
  cases same
  exact ⟨readWholeFormed readWhole, readFractionFormed readFraction, readExponentFormed readExponent⟩

namespace Value

theorem emptyArrayFormed : (array []).Formed := .array fun _ inside => absurd inside List.not_mem_nil

theorem emptyObjectFormed : (object []).Formed := .object fun _ inside => absurd inside List.not_mem_nil

/-- As many readers in one another as the fuel allows give values of the grammar. -/
structure FormedWithin (fuel : Nat) : Prop where
  value : ∀ {s v rest}, readValue fuel s = some (v, rest) → v.Formed
  items : ∀ {s items rest}, readItems fuel s = some (items, rest) → ∀ v ∈ items, v.Formed
  members : ∀ {s members rest}, readMembers fuel s = some (members, rest) → ∀ m ∈ members, m.2.Formed

section Step
variable {fuel : Nat} (within : FormedWithin fuel)
include within

theorem readValueFormed {v : Value} (read : readValue (fuel + 1) s = some (v, rest)) : v.Formed := by
  unfold readValue at read
  split at read
  · cases read
    exact .null
  · cases read
    exact .bool true
  · cases read
    exact .bool false
  · obtain ⟨⟨text, after⟩, -, same⟩ := Option.map_eq_some_iff.1 read
    cases same
    exact .string text
  · split at read
    · cases read
      exact emptyArrayFormed
    · obtain ⟨⟨items, after⟩, found, same⟩ := Option.map_eq_some_iff.1 read
      cases same
      exact .array (within.items found)
  · split at read
    · cases read
      exact emptyObjectFormed
    · obtain ⟨⟨members, after⟩, found, same⟩ := Option.map_eq_some_iff.1 read
      cases same
      exact .object (within.members found)
  · obtain ⟨⟨n, after⟩, found, same⟩ := Option.map_eq_some_iff.1 read
    cases same
    exact .number (readNumberFormed found)

theorem readItemsFormed {items : List Value} (read : readItems (fuel + 1) s = some (items, rest)) :
    ∀ v ∈ items, v.Formed := by
  unfold readItems at read
  split at read
  · rename_i v r found
    have first := within.value found
    split at read
    · obtain ⟨⟨more, after⟩, others, same⟩ := Option.map_eq_some_iff.1 read
      cases same
      exact List.forall_mem_cons.2 ⟨first, within.items others⟩
    · cases read
      exact List.forall_mem_singleton.2 first
    · contradiction
  · contradiction

theorem readMembersFormed {members : List (Option String × Value)}
    (read : readMembers (fuel + 1) s = some (members, rest)) : ∀ m ∈ members, m.2.Formed := by
  unfold readMembers at read
  split at read
  · split at read
    · split at read
      · split at read
        · rename_i v r found
          have first := within.value found
          split at read
          · obtain ⟨⟨more, after⟩, others, same⟩ := Option.map_eq_some_iff.1 read
            cases same
            exact List.forall_mem_cons.2 ⟨first, within.members others⟩
          · cases read
            exact List.forall_mem_singleton.2 first
          · contradiction
        · contradiction
      · contradiction
    · contradiction
  · contradiction

end Step

theorem formedWithin (fuel : Nat) : FormedWithin fuel := by
  induction fuel with
  | zero => constructor <;> simp [readValue, readItems, readMembers]
  | succ fuel ih => exact ⟨readValueFormed ih, readItemsFormed ih, readMembersFormed ih⟩

theorem parseFormed {text : String} {v : Value} (read : parse? text = some v) : v.Formed := by
  unfold parse? read? at read
  split at read
  · rename_i found
    split at read
    · cases read
      exact (formedWithin _).value found
    · contradiction
  · contradiction

end Value
end Postboard.Json
