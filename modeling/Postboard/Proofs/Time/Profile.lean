import Postboard.Proofs.Time.Layout
import Postboard.Time.Spelling

/-! The internet profile of timestamps: what its texts are made of, and the instant that the strict reader takes from
them. Every instant of a year of four digits is written in it, leap seconds and all fractions included; what else
the reader takes, as small letters or a space, is not covered. -/
namespace Postboard
open Text

def Instant.FourDigits (t : Instant) : Prop := 0 ≤ t.date.year ∧ t.date.year ≤ 9999

namespace Time

inductive Zone : List Char → Int → Prop where
  | universal : Zone ['Z'] 0
  | ahead {hours minutes : Nat} (inDay : hours < 24) (inHour : minutes < 60) :
      Zone ('+' :: (padded 2 hours ++ ':' :: padded 2 minutes)) (hours * 60 + minutes : Nat)
  | behind {hours minutes : Nat} (inDay : hours < 24) (inHour : minutes < 60) :
      Zone ('-' :: (padded 2 hours ++ ':' :: padded 2 minutes)) (-(hours * 60 + minutes : Nat))

def Fields.stamp (f : Fields) : List Char :=
  padded 4 f.year.toNat ++ '-' :: (padded 2 f.month ++ '-' :: (padded 2 f.day ++
    'T' :: (padded 2 f.hour ++ ':' :: (padded 2 f.minute ++ ':' :: padded 2 f.second))))

inductive Profile (f : Fields) (nano : Nat) (offset : Int) : List Char → Prop where
  | stamp {fraction zone : List Char} (year : 0 ≤ f.year ∧ f.year ≤ 9999) (short : f.Short) (day : f.date?.isSome)
      (clock : f.clockValid) (parts : Fraction fraction nano) (ahead : Zone zone offset) :
      Profile f nano offset (f.stamp ++ (fraction ++ zone))

theorem readTwo {n : Nat} (fits : n < 100) (rest : List Char) : readExactly 2 (padded 2 n ++ rest) = some (n, rest) :=
  readExactlyPadded (by omega) fits rest

theorem readStamp {f : Fields} (year : 0 ≤ f.year ∧ f.year ≤ 9999) (short : f.Short) (rest : List Char) :
    readStrictFields (f.stamp ++ rest) = some (f, rest) := by
  have four : f.year.toNat < 10 ^ 4 := by omega
  have month : f.month < 100 := Nat.lt_of_le_of_lt short.monthLast (by decide)
  have written := readExactlyPadded (show 0 < 4 by omega) four
  simp only [readStrictFields, Fields.stamp, List.append_assoc, List.cons_append, written, readTwo month,
    readTwo short.day, readTwo short.hour, readTwo short.minute, readTwo short.second, afterMark, afterDay, true_or,
    ↓reduceIte, bind, Option.bind, pure, Int.toNat_of_nonneg year.1]

theorem readZone {zone : List Char} {offset : Int} (ahead : Zone zone offset) :
    readOffset (afterMark ':') zone = some (offset, []) := by
  cases ahead with
  | universal => rfl
  | @ahead hours minutes inDay inHour | @behind hours minutes inDay inHour =>
    have last := readTwo (show minutes < 100 by omega) []
    rw [List.append_nil] at last
    simp [readOffset, readTwo (show hours < 100 by omega), last, afterMark, inHour]

theorem zoneStarts {zone : List Char} {offset : Int} (ahead : Zone zone offset) :
    ∀ c ∈ zone.head?, isAsciiDigit c = false ∧ c ≠ '.' := by
  cases ahead <;> simp [isAsciiDigit]

theorem readProfile {f : Fields} {nano : Nat} {offset : Int} {s : List Char} (profile : Profile f nano offset s) :
    readStrict? s = f.instant? nano offset := by
  cases profile with
  | stamp year short day clock parts ahead =>
    simp only [readStrict?, readStamp year short, readFractionOf parts (zoneStarts ahead), readZone ahead, bind,
      Option.bind, List.isEmpty_nil, ↓reduceIte]

theorem shortOfInstant (t : Instant) : (Fields.ofInstant t).Short := by
  have inDay := t.inDay
  have inSecond := t.inSecond
  obtain ⟨monthFirst, monthLast, -, dayLast⟩ := t.date.monthDayBounds
  refine ⟨monthFirst, monthLast, Nat.lt_of_le_of_lt dayLast (by decide), ?_, ?_, ?_⟩
  · show t.second / 3600 < 100
    omega
  · show t.second / 60 % 60 < 100
    omega
  · show t.second % 60 + t.nano / 1000000000 < 100
    omega

variable {t : Instant}

theorem writeStamp (year : t.FourDigits) :
    t.write = (Fields.ofInstant t).stamp ++ (Instant.fractionText (t.nano % 1000000000) ++ ['Z']) := by
  have digits : Instant.yearText t.date.year = padded 4 t.date.year.toNat := if_pos year
  simp only [Instant.write, digits, Fields.stamp, Fields.ofInstant, List.append_assoc, List.cons_append]

theorem writeProfile (year : t.FourDigits) : Profile (.ofInstant t) (t.nano % 1000000000) 0 t.write := by
  have fits : t.nano % 1000000000 < 1000000000 := Nat.mod_lt _ (by decide)
  have day : (Fields.ofInstant t).date?.isSome := by
    rw [dateOfInstant]
    rfl
  rw [writeStamp year]
  exact .stamp year (shortOfInstant t) day (clockOfInstant t) (fractionWritten fits) .universal

theorem writeTrimmed (t : Instant) : trim t.write = t.write := by
  apply trimSelf
  · simp only [Instant.write, List.append_assoc]
    exact yearStartsDark _ _
  · rw [Instant.write, List.getLast?_append]
    rintro c ⟨⟩
    rfl

theorem readWrite (year : t.FourDigits) : Instant.read? t.write = some t := by
  rw [Instant.read?, writeTrimmed, readProfile (writeProfile year), instantOfFields]

end Time
end Postboard
