import Postboard.Proofs.Text.Decimal
import Postboard.Proofs.Time.Civil
import Postboard.Time.Timestamp

/-! Instants as they are written, and the lenient reader on them. Years beyond four digits, leap seconds
and every length of fraction are covered; other spellings of an instant are not. -/
namespace Postboard.Time
open Text

theorem readPairPadded {n : Nat} (fits : n < 100) (rest : List Char) :
    readPair (padded 2 n ++ rest) = some (n, rest) := by
  rw [readPair, trimStartPadded, readNumberExact (by omega) fits]

theorem readYearDigits {n : Nat} (fits : n < 10000) (rest : List Char) :
    readYear (padded 4 n ++ rest) = some ((n : Int), rest) := by
  have number := readNumberExact (by omega) (show n < 10 ^ 4 from fits) rest
  obtain ⟨c, r, same, digit⟩ := paddedStart 4 n
  have minus : c ≠ '-' := by
    rintro rfl
    contradiction
  have plus : c ≠ '+' := by
    rintro rfl
    contradiction
  rw [readYear, trimStartPadded]
  rw [same, List.cons_append] at number ⊢
  split
  · simp_all
  · simp_all
  · rw [number]
    rfl

/- A signed year has any number of digits, so it is what follows that ends it. -/
theorem readToEnd (n : Nat) {rest : List Char} (stop : ∀ c ∈ rest.head?, isAsciiDigit c = false) :
    readNumber (padded 4 n ++ rest).length (padded 4 n ++ rest) = some (n, rest) :=
  readNumberOpen (by simp) stop

theorem readYearMinus (n : Nat) {rest : List Char} (stop : ∀ c ∈ rest.head?, isAsciiDigit c = false) :
    readYear ('-' :: (padded 4 n ++ rest)) = some (-(n : Int), rest) := by
  rw [readYear, trimStartOfNotBlank rfl]
  simp only [readToEnd n stop, Option.map_some]

theorem readYearPlus (n : Nat) {rest : List Char} (stop : ∀ c ∈ rest.head?, isAsciiDigit c = false) :
    readYear ('+' :: (padded 4 n ++ rest)) = some ((n : Int), rest) := by
  rw [readYear, trimStartOfNotBlank rfl]
  simp only [readToEnd n stop, Option.map_some]

theorem readYearText (year : Int) {rest : List Char} (stop : ∀ c ∈ rest.head?, isAsciiDigit c = false) :
    readYear (Instant.yearText year ++ rest) = some (year, rest) := by
  unfold Instant.yearText
  split
  · rename_i plain
    rw [readYearDigits (by omega), Int.toNat_of_nonneg plain.1]
  · by_cases negative : year < 0
    · rw [if_pos negative, List.cons_append, readYearMinus _ stop]
      simp only [Option.some.injEq, Prod.mk.injEq, and_true]
      omega
    · rw [if_neg negative, List.cons_append, readYearPlus _ stop]
      simp only [Option.some.injEq, Prod.mk.injEq, and_true]
      omega

theorem lenientDayWritten (f : Fields) (year : Int) {month day : Nat} (shortMonth : month < 100) (shortDay : day < 100)
    (rest : List Char) :
    lenientDay.read f (Instant.yearText year ++ '-' :: (padded 2 month ++ '-' :: (padded 2 day ++ rest))) =
      some ({ f with year, month, day }, rest) := by
  have hyphen : ∀ rest, trimStart ('-' :: rest) = '-' :: rest := fun _ => trimStartOfNotBlank rfl
  have ended : ∀ rest, readYear (Instant.yearText year ++ '-' :: rest) = some (year, '-' :: rest) :=
    fun _ => readYearText year (by simp [isAsciiDigit])
  simp only [lenientDay, Layout.read, Item.read, ended, hyphen, readPairPadded shortMonth,
    readPairPadded shortDay, Option.map_some, ↓reduceIte]

theorem lenientClockWritten (f : Fields) {hour minute second : Nat} (shortHour : hour < 100)
    (shortMinute : minute < 100) (shortSecond : second < 100) (rest : List Char) :
    lenientClock.read f (padded 2 hour ++ ':' :: (padded 2 minute ++ ':' :: (padded 2 second ++ rest))) =
      some ({ f with hour, minute, second }, rest) := by
  have colon : ∀ rest, trimStart (':' :: rest) = ':' :: rest := fun _ => trimStartOfNotBlank rfl
  simp only [lenientClock, Layout.read, Item.read, colon, readPairPadded shortHour,
    readPairPadded shortMinute, readPairPadded shortSecond, Option.map_some, ↓reduceIte]

inductive Fraction : List Char → Nat → Prop where
  | none : Fraction [] 0
  | point {digits : List Char} (present : digits ≠ []) (ascii : ∀ c ∈ digits, isAsciiDigit c) :
      Fraction ('.' :: digits) (decimalValue (digits.take 9) * 10 ^ (9 - (digits.take 9).length))

theorem fractionDigits {width n : Nat} (positive : 0 < width) (nine : width ≤ 9) (fits : n < 10 ^ width) :
    Fraction ('.' :: padded width n) (n * 10 ^ (9 - width)) := by
  have length := paddedLength positive fits
  have kept : (padded width n).take 9 = padded width n := List.take_of_length_le (by omega)
  have point := Fraction.point (paddedNonempty width n) paddedDigits
  rwa [kept, decimalValuePadded, length] at point

theorem fractionWritten {nano : Nat} (fits : nano < 1000000000) : Fraction (Instant.fractionText nano) nano := by
  unfold Instant.fractionText
  split
  · subst nano
    exact .none
  · split
    · rename_i milli
      have digits := @fractionDigits 3 (nano / 1000000) (by omega) (by omega) (by omega)
      rwa [show nano / 1000000 * 10 ^ (9 - 3) = nano by omega] at digits
    · split
      · rename_i micro
        have digits := @fractionDigits 6 (nano / 1000) (by omega) (by omega) (by omega)
        rwa [show nano / 1000 * 10 ^ (9 - 6) = nano by omega] at digits
      · have digits := @fractionDigits 9 nano (by omega) (by omega) fits
        rwa [show nano * 10 ^ (9 - 9) = nano by omega] at digits

theorem readFractionOf {s rest : List Char} {nano : Nat} (fraction : Fraction s nano)
    (stop : ∀ c ∈ rest.head?, isAsciiDigit c = false ∧ c ≠ '.') : readFraction (s ++ rest) = some (nano, rest) := by
  cases fraction with
  | none =>
    cases rest with
    | nil => rfl
    | cons c rest => simp [readFraction, (stop c rfl).2]
  | @point digits present ascii =>
    have ends : rest.takeWhile isAsciiDigit = [] := by
      cases rest with
      | nil => rfl
      | cons c rest => exact List.takeWhile_cons_of_neg (by simp [(stop c rfl).1])
    have taken : (digits ++ rest).takeWhile isAsciiDigit = digits := by
      rw [List.takeWhile_append_of_pos ascii, ends, List.append_nil]
    simp [readFraction, taken, present]

theorem ofSecondsOfInstant (t : Instant) :
    Instant.ofSeconds? (t.date.number * 86400 + t.second) t.nano = some t := by
  have inDay := t.inDay
  have day : (t.date.number * 86400 + t.second) / 86400 = t.date.number := by omega
  have second : ((t.date.number * 86400 + t.second) % 86400).toNat = t.second := by omega
  rw [Instant.ofSeconds?, day, Date.ofNumberOfDate]
  simp only [second, t.inDay, t.inSecond, and_self, ↓reduceDIte]

def Fields.ofInstant (t : Instant) : Fields where
  year := t.date.year
  month := t.date.month
  day := t.date.day
  hour := t.second / 3600
  minute := t.second / 60 % 60
  second := t.second % 60 + t.nano / 1000000000

theorem dateOfInstant (t : Instant) : (Fields.ofInstant t).date? = some t.date := Date.ofCivilOfDate t.date

theorem clockOfInstant (t : Instant) : (Fields.ofInstant t).clockValid := by
  have inDay := t.inDay
  have inSecond := t.inSecond
  have hour : t.second / 3600 < 24 := by omega
  have minute : t.second / 60 % 60 < 60 := by omega
  have second : t.second % 60 + t.nano / 1000000000 ≤ 60 := by omega
  simp [Fields.clockValid, Fields.ofInstant, hour, minute, second]

/- A leap second stands as second 60, which no other second is written as. -/
theorem instantOfFields (t : Instant) : (Fields.ofInstant t).instant? (t.nano % 1000000000) 0 = some t := by
  have inDay := t.inDay
  have inSecond := t.inSecond
  have leap : (t.second % 60 + t.nano / 1000000000) / 60 = t.nano / 1000000000 := by omega
  have clock : t.second / 3600 * 3600 + t.second / 60 % 60 * 60 + (t.second % 60 + t.nano / 1000000000) -
      t.nano / 1000000000 = t.second := by omega
  have nano : t.nano % 1000000000 + t.nano / 1000000000 * 1000000000 = t.nano := by omega
  rw [Fields.instant?, dateOfInstant]
  simp only [clockOfInstant, Int.natAbs_zero, Nat.zero_lt_succ, and_self, ↓reduceIte, Int.zero_mul, Int.sub_zero]
  simp only [Fields.ofInstant, leap, clock, nano]
  exact ofSecondsOfInstant t

theorem readLenientWrite (t : Instant) : readLenient? t.write = some t := by
  have inDay := t.inDay
  have inSecond := t.inSecond
  have bounds := t.date.monthDayBounds
  have clock := lenientClockWritten { year := t.date.year, month := t.date.month, day := t.date.day }
    (show t.second / 3600 < 100 by omega) (show t.second / 60 % 60 < 100 by omega)
    (show t.second % 60 + t.nano / 1000000000 < 100 by omega)
  have fraction := readFractionOf (fractionWritten (Nat.mod_lt t.nano (show 0 < 1000000000 by omega)))
    (show ∀ c ∈ ['Z'].head?, isAsciiDigit c = false ∧ c ≠ '.' by simp [isAsciiDigit])
  have offset : readLenientOffset (trimStart ['Z']) = some (0, []) := by decide
  simp only [readLenient?, Instant.write, List.append_assoc, List.cons_append,
    lenientDayWritten {} t.date.year (show t.date.month < 100 by omega) (show t.date.day < 100 by omega),
    afterDay, true_or, ↓reduceIte, clock, fraction, offset, trimStartNil, List.isEmpty_nil, bind, Option.bind]
  exact instantOfFields t

theorem yearTextLength {year : Int} (bounds : -262143 ≤ year ∧ year ≤ 262142) :
    (Instant.yearText year).length ≤ 7 := by
  unfold Instant.yearText
  split
  · have digits := @paddedAtMost 4 4 year.toNat (by omega) (by omega) (by omega)
    omega
  · have digits := @paddedAtMost 4 6 year.natAbs (by omega) (by omega) (by omega)
    rw [List.length_cons]
    omega

theorem fractionTextLength {nano : Nat} (fits : nano < 1000000000) : (Instant.fractionText nano).length ≤ 10 := by
  unfold Instant.fractionText
  split
  · exact Nat.zero_le _
  · split
    · have digits := @paddedLength 3 (nano / 1000000) (by omega) (by omega)
      rw [List.length_cons]
      omega
    · split
      · have digits := @paddedLength 6 (nano / 1000) (by omega) (by omega)
        rw [List.length_cons]
        omega
      · have digits := @paddedLength 9 nano (by omega) fits
        rw [List.length_cons]
        omega

/- Seven characters of year, ten of fraction, and the marks and pairs of digits around them. -/
theorem writeLength (t : Instant) : t.write.length ≤ 33 := by
  have inDay := t.inDay
  have inSecond := t.inSecond
  have bounds := t.date.monthDayBounds
  have year := yearTextLength t.date.yearBounds
  have fraction := fractionTextLength (Nat.mod_lt t.nano (show 0 < 1000000000 by omega))
  have pair : ∀ n, n < 100 → (padded 2 n).length = 2 := fun n fits => paddedLength (by omega) fits
  simp only [Instant.write, List.length_append, List.length_cons, List.length_nil, pair t.date.month (by omega),
    pair t.date.day (by omega), pair (t.second / 3600) (by omega), pair (t.second / 60 % 60) (by omega),
    pair (t.second % 60 + t.nano / 1000000000) (by omega)]
  omega

end Postboard.Time
