import Postboard.Time.Calendar

/-! Days from 1 January of the year -262143 to 31 December of the year 262142. -/
namespace Postboard

open Calendar

structure Date where
  number : Int
  notBefore : daysBefore (-262143) ≤ number
  notAfter : number < daysBefore 262143
  deriving DecidableEq

namespace Date

def ofNumber? (n : Int) : Option Date :=
  if h : daysBefore (-262143) ≤ n ∧ n < daysBefore 262143 then some ⟨n, h.1, h.2⟩ else none

def ofCivil? (year : Int) (month day : Nat) : Option Date :=
  (dayNumber? year month day).bind ofNumber?

def year (d : Date) : Int := yearOf d.number

def monthDay (d : Date) : Nat × Nat :=
  findMonth 1 (monthLengths (isLeap d.year)) (d.number - daysBefore d.year).toNat

def month (d : Date) : Nat := d.monthDay.1

def day (d : Date) : Nat := d.monthDay.2

def next? (d : Date) : Option Date := ofNumber? (d.number + 1)

instance : Ord Date := ⟨fun a b => compare a.number b.number⟩

theorem ext {a b : Date} (h : a.number = b.number) : a = b := by
  cases a
  cases b
  simp_all

theorem ofNumberOfDate (d : Date) : ofNumber? d.number = some d := by
  simp [ofNumber?, d.notBefore, d.notAfter]

theorem numberOfOfNumber {n : Int} {d : Date} (h : ofNumber? n = some d) : d.number = n := by
  unfold ofNumber? at h
  split at h
  · cases h
    rfl
  · cases h

end Date
end Postboard
