import Postboard.Time.Date
import Postboard.Text.Decimal

/-! Instants of universal time with nanoseconds. A leap second is the second billion of nanoseconds
of a second 59, so it comes after that second and before the next minute. -/
namespace Postboard

open Text

structure Instant where
  date : Date
  second : Nat
  nano : Nat
  inDay : second < 86400
  inSecond : nano < 1000000000 ∨ (second % 60 = 59 ∧ nano < 2000000000)
  deriving DecidableEq

namespace Instant

def ofSeconds? (seconds : Int) (nano : Nat) : Option Instant :=
  match Date.ofNumber? (seconds / 86400) with
  | some date =>
    let second := (seconds % 86400).toNat
    if h : second < 86400 ∧ (nano < 1000000000 ∨ (second % 60 = 59 ∧ nano < 2000000000)) then
      some ⟨date, second, nano, h.1, h.2⟩
    else none
  | none => none

def midnight (date : Date) : Instant := ⟨date, 0, 0, by decide, .inl (by decide)⟩

/-- Where the instant stands among all instants: two billion places for each second. -/
def position (t : Instant) : Int := (t.date.number * 86400 + t.second) * 2000000000 + t.nano

instance : Ord Instant := ⟨fun a b => compare a.position b.position⟩

def yearText (year : Int) : List Char :=
  if 0 ≤ year ∧ year ≤ 9999 then padded 4 year.toNat
  else (if year < 0 then '-' else '+') :: padded 4 year.natAbs

def fractionText (nano : Nat) : List Char :=
  if nano = 0 then []
  else if nano % 1000000 = 0 then '.' :: padded 3 (nano / 1000000)
  else if nano % 1000 = 0 then '.' :: padded 6 (nano / 1000)
  else '.' :: padded 9 nano

def write (t : Instant) : List Char :=
  let leap := t.nano / 1000000000
  yearText t.date.year ++ '-' :: padded 2 t.date.month ++ '-' :: padded 2 t.date.day ++
    'T' :: padded 2 (t.second / 3600) ++ ':' :: padded 2 (t.second / 60 % 60) ++
    ':' :: padded 2 (t.second % 60 + leap) ++ fractionText (t.nano % 1000000000) ++ ['Z']

def text (t : Instant) : String := String.ofList t.write

theorem positionInjective {a b : Instant} (h : a.position = b.position) : a = b := by
  have := a.inDay
  have := b.inDay
  have := a.inSecond
  have := b.inSecond
  unfold position at h
  have hd : a.date = b.date := Date.ext (by omega)
  have hs : a.second = b.second := by omega
  have hn : a.nano = b.nano := by omega
  cases a
  cases b
  simp_all

theorem midnightPosition (d : Date) : (midnight d).position = d.number * 172800000000000 := by
  simp only [position, midnight]
  omega

end Instant
end Postboard
