import Mathlib
import Postboard.Time.Date

/-! A day and its year, month and day of the month. Every day that there is has such a name, and the
name leads back to the day. -/
namespace Postboard

namespace Calendar

theorem daysBeforeMonotone {a b : Int} (le : a ≤ b) : daysBefore a ≤ daysBefore b := by
  rcases Int.lt_or_eq_of_le le with less | same
  · unfold daysBefore
    omega
  · exact Int.le_of_eq (congrArg daysBefore same)

theorem monthLengthsSum (leap : Bool) : (monthLengths leap).sum = if leap then 366 else 365 := by
  cases leap <;> rfl

theorem foldlSum (lengths : List Nat) : lengths.foldl (· + ·) 0 = lengths.sum :=
  List.sum_eq_foldl.symm

theorem findMonthWithin {lengths : List Nat} {n : Nat} (within : n < lengths.sum) (month : Nat) :
    ∃ i length, (findMonth month lengths n).1 = month + i ∧ lengths[i]? = some length ∧
      1 ≤ (findMonth month lengths n).2 ∧ (findMonth month lengths n).2 ≤ length ∧
      n + 1 = (lengths.take i).sum + (findMonth month lengths n).2 := by
  induction lengths generalizing month n with
  | nil => simp at within
  | cons length rest ih =>
    unfold findMonth
    by_cases here : n < length
    · rw [if_pos here]
      exact ⟨0, length, rfl, rfl, by simp, here, by simp⟩
    · rw [if_neg here]
      rw [List.sum_cons] at within
      obtain ⟨i, last, name, found, first, inside, days⟩ := ih (show n - length < rest.sum by omega) (month + 1)
      refine ⟨i + 1, last, by omega, found, first, inside, ?_⟩
      rw [List.take_succ_cons, List.sum_cons]
      omega

theorem dayInYear (day : Int) :
    (day - daysBefore (yearOf day)).toNat < (monthLengths (isLeap (yearOf day))).sum := by
  have starts := yearOfStarts day
  have ends := yearOfEnds day
  rw [daysBeforeNext] at ends
  rw [monthLengthsSum]
  cases leap : isLeap (yearOf day) with
  | true =>
    rw [leap] at ends
    simp only [↓reduceIte] at ends ⊢
    omega
  | false =>
    rw [leap] at ends
    simp only [Bool.false_eq_true, ↓reduceIte] at ends ⊢
    omega

end Calendar

namespace Date
open Calendar

theorem yearBounds (d : Date) : -262143 ≤ d.year ∧ d.year ≤ 262142 := by
  have starts : daysBefore d.year ≤ d.number := yearOfStarts d.number
  have ends : d.number < daysBefore (d.year + 1) := yearOfEnds d.number
  have first := d.notBefore
  have last := d.notAfter
  constructor
  · rcases Int.lt_or_le d.year (-262143) with early | late
    · have before : daysBefore (d.year + 1) ≤ daysBefore (-262143) := daysBeforeMonotone early
      omega
    · exact late
  · rcases Int.lt_or_le 262142 d.year with late | early
    · have after : daysBefore 262143 ≤ daysBefore d.year := daysBeforeMonotone late
      omega
    · exact early

theorem monthDayBounds (d : Date) : 1 ≤ d.month ∧ d.month ≤ 12 ∧ 1 ≤ d.day ∧ d.day ≤ 31 := by
  obtain ⟨i, length, name, found, first, inside, -⟩ := findMonthWithin (dayInYear d.number) 1
  have small : i < 12 := (List.getElem?_eq_some_iff.1 found).1
  have month : d.month = 1 + i := name
  have longest : length ≤ 31 := by
    have all : ∀ leap, ∀ l ∈ monthLengths leap, l ≤ 31 := by decide
    exact all _ length (List.mem_of_getElem? found)
  exact ⟨by omega, by omega, first, Nat.le_trans inside longest⟩

theorem dayNumberOfDate (d : Date) : dayNumber? d.year d.month d.day = some d.number := by
  obtain ⟨i, length, name, found, first, inside, days⟩ := findMonthWithin (dayInYear d.number) 1
  have starts := yearOfStarts d.number
  have month : d.month = 1 + i := name
  have monthFirst : 1 ≤ d.month ∧ 1 ≤ d.day := ⟨by omega, first⟩
  have place : (monthLengths (isLeap d.year))[d.month - 1]? = some length := by
    rw [month, Nat.add_sub_cancel_left]
    exact found
  have day : d.day ≤ length := inside
  have number : (d.number - daysBefore d.year).toNat + 1 =
      ((monthLengths (isLeap d.year)).take (d.month - 1)).sum + d.day := by
    rw [month, Nat.add_sub_cancel_left]
    exact days
  have year : daysBefore d.year ≤ d.number := starts
  simp only [dayNumber?, monthFirst, and_self, ↓reduceIte, place, day, foldlSum, Option.some.injEq]
  omega

theorem ofCivilOfDate (d : Date) : ofCivil? d.year d.month d.day = some d := by
  rw [ofCivil?, dayNumberOfDate, Option.bind_some, ofNumberOfDate]

end Date
end Postboard
