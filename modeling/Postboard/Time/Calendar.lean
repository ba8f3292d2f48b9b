/-! The Gregorian calendar, carried on before its introduction, with a year 0. Days are counted from
1 January of year 0. -/
namespace Postboard.Calendar

def isLeap (year : Int) : Bool :=
  year % 4 == 0 && (year % 100 != 0 || year % 400 == 0)

def monthLengths (leap : Bool) : List Nat :=
  [31, if leap then 29 else 28, 31, 30, 31, 30, 31, 31, 30, 31, 30, 31]

def daysBefore (year : Int) : Int :=
  365 * year + (year + 3) / 4 - (year + 99) / 100 + (year + 399) / 400

def cycleDays : Int := 146097

/-- The year of a day. Within a cycle, dividing by 365 is right or one year too late. -/
def yearOf (day : Int) : Int :=
  let inCycle := day % cycleDays
  let guess := inCycle / 365
  400 * (day / cycleDays) + (if daysBefore guess ≤ inCycle then guess else guess - 1)

def findMonth (month : Nat) : List Nat → Nat → Nat × Nat
  | [], n => (month, n + 1)
  | length :: rest, n => if n < length then (month, n + 1) else findMonth (month + 1) rest (n - length)

def dayNumber? (year : Int) (month day : Nat) : Option Int :=
  let lengths := monthLengths (isLeap year)
  if 1 ≤ month ∧ 1 ≤ day then
    match lengths[month - 1]? with
    | some length =>
      if day ≤ length then some (daysBefore year + ((lengths.take (month - 1)).foldl (· + ·) 0 + (day - 1) : Nat)) else none
    | none => none
  else none

theorem daysBeforeNext (year : Int) :
    daysBefore (year + 1) = daysBefore year + (if isLeap year then 366 else 365) := by
  unfold daysBefore isLeap
  split <;> simp_all <;> omega

theorem daysBeforeCycle (cycles year : Int) :
    daysBefore (400 * cycles + year) = cycleDays * cycles + daysBefore year := by
  unfold daysBefore cycleDays
  omega

theorem leapsBefore (year : Int) (low : 0 ≤ year) (high : year ≤ 400) :
    365 * year ≤ daysBefore year ∧ daysBefore year ≤ 365 * year + 97 := by
  unfold daysBefore
  omega

theorem yearOfStarts (day : Int) : daysBefore (yearOf day) ≤ day := by
  unfold yearOf
  rw [daysBeforeCycle]
  have := Int.mul_ediv_add_emod day cycleDays
  have low : 0 ≤ day % cycleDays := Int.emod_nonneg _ (by decide)
  have high : day % cycleDays < 146097 := Int.emod_lt_of_pos _ (by decide)
  generalize day % cycleDays = r at *
  generalize day / cycleDays = q at *
  split
  · omega
  · rename_i late
    by_cases first : r / 365 = 0
    · rw [first] at late
      exact absurd (show daysBefore 0 ≤ r from low) late
    · have := leapsBefore (r / 365 - 1) (by omega) (by omega)
      omega

theorem yearOfEnds (day : Int) : day < daysBefore (yearOf day + 1) := by
  unfold yearOf
  rw [Int.add_assoc, daysBeforeCycle]
  have := Int.mul_ediv_add_emod day cycleDays
  have low : 0 ≤ day % cycleDays := Int.emod_nonneg _ (by decide)
  have high : day % cycleDays < 146097 := Int.emod_lt_of_pos _ (by decide)
  generalize day % cycleDays = r at *
  generalize day / cycleDays = q at *
  split
  · by_cases last : r / 365 = 400
    · rw [last]
      have : daysBefore (400 + 1) = 146463 := by decide
      omega
    · have := leapsBefore (r / 365 + 1) (by omega) (by omega)
      omega
  · rw [Int.sub_add_cancel]
    omega

end Postboard.Calendar
