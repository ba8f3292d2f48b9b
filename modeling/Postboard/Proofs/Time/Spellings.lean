import Postboard.Proofs.Time.Layout
import Postboard.Time.Spelling

/-! The spellings of a day. A day that is written in one of the four that hold nothing else is read again, with
any blanks around it; and no text is read in two spellings, since each has marks of its own, so the order in
which they are tried settles nothing. -/
namespace Postboard
open Text Time

namespace Spelling

def days : List Spelling := [dashed, slashed, monthFirst, dayFirst]

def offsetMarks : List (List Char) := [['z'], ['+', ':'], ['-', ':'], ['\u2212', ':']]

def strictMarks : List (List Char) :=
  [[], ['t']].flatMap fun day => [[], ['.']].flatMap fun point => offsetMarks.map fun offset =>
    ['-', '-'] ++ day ++ [':', ':'] ++ point ++ offset

def marks (spelling : Spelling) : List (List Char) :=
  match spelling.layout? with
  | some layout => layout.marks
  | none => strictMarks

theorem marksApart (a b : Spelling) : ∀ m ∈ a.marks, m ∈ b.marks → a = b := by
  cases a <;> cases b <;> decide +kernel

end Spelling

namespace Time

theorem readExactlyMarks {width n : Nat} {s r : List Char} (read : readExactly width s = some (n, r)) :
    marks s = marks r := by
  unfold readExactly at read
  dsimp only at read
  split at read
  · rename_i digits
    cases read
    conv_lhs => rw [← List.take_append_drop width s, marksAppend]
    rw [marksUnmarked fun c inside => .inr (List.all_eq_true.1 digits.2 c inside), List.nil_append]
  · contradiction

theorem afterMarkMarks {c : Char} {s r : List Char} (read : afterMark c s = some r) : marks s = marks [c] ++ marks r := by
  cases s with
  | nil => contradiction
  | cons d s =>
    simp only [afterMark] at read
    split at read
    · rename_i same
      cases read
      rw [marksCons, same]
    · contradiction

theorem afterDayMarks {s r : List Char} (read : afterDay s = some r) :
    ∃ m ∈ [[], ['t']], marks s = m ++ marks r := by
  cases s with
  | nil => contradiction
  | cons d s =>
    simp only [afterDay] at read
    split at read
    · rename_i mark
      cases read
      rw [marksCons]
      rcases mark with rfl | rfl | rfl
      · exact ⟨['t'], by decide, rfl⟩
      · exact ⟨['t'], by decide, rfl⟩
      · exact ⟨[], by decide, rfl⟩
    · contradiction

theorem readStrictFieldsMarks {s r : List Char} {f : Fields} (read : readStrictFields s = some (f, r)) :
    ∃ m ∈ [[], ['t']], marks s = ['-', '-'] ++ m ++ [':', ':'] ++ marks r := by
  simp only [readStrictFields, bind, Option.bind_eq_some_iff, Prod.exists] at read
  obtain ⟨year, s₁, readYear, s₂, hyphen, month, s₃, readMonth, s₄, hyphen', day, s₅, readDay, s₆, separated,
    hour, s₇, readHour, s₈, colon, minute, s₉, readMinute, s₁₀, colon', second, s₁₁, readSecond, last⟩ := read
  cases last
  obtain ⟨m, among, between⟩ := afterDayMarks separated
  refine ⟨m, among, ?_⟩
  have hyphenMark : marks ['-'] = ['-'] := by decide
  have colonMark : marks [':'] = [':'] := by decide
  rw [readExactlyMarks readYear, afterMarkMarks hyphen, readExactlyMarks readMonth, afterMarkMarks hyphen',
    readExactlyMarks readDay, between, readExactlyMarks readHour, afterMarkMarks colon,
    readExactlyMarks readMinute, afterMarkMarks colon', readExactlyMarks readSecond, hyphenMark, colonMark]
  simp only [List.append_assoc, List.cons_append, List.nil_append]

theorem readFractionMarks {s r : List Char} {nano : Nat} (read : readFraction s = some (nano, r)) :
    ∃ m ∈ [[], ['.']], marks s = m ++ marks r := by
  unfold readFraction at read
  split at read
  · rename_i digits
    dsimp only at read
    split at read
    · contradiction
    · cases read
      refine ⟨['.'], by decide, ?_⟩
      have start : digits.takeWhile isAsciiDigit <+: digits := List.takeWhile_prefix _
      conv_lhs => rw [marksCons, ← List.prefix_iff_eq_append.1 start, marksAppend]
      rw [marksUnmarked fun c inside => .inr (List.all_eq_true.1 List.all_takeWhile c inside)]
      rfl
  · cases read
    exact ⟨[], by decide, rfl⟩

theorem readOffsetMarks {s r : List Char} {offset : Int} (read : readOffset (afterMark ':') s = some (offset, r)) :
    ∃ m ∈ Spelling.offsetMarks, marks s = m ++ marks r := by
  cases s with
  | nil => contradiction
  | cons d s =>
    simp only [readOffset] at read
    split at read
    · rename_i zero
      cases read
      refine ⟨['z'], by decide, ?_⟩
      rw [marksCons]
      rcases zero with rfl | rfl <;> rfl
    · split at read
      · rename_i sign
        simp only [bind, Option.bind_eq_some_iff, Prod.exists] at read
        obtain ⟨hours, s₁, readHours, s₂, colon, minutes, s₃, readMinutes, last⟩ := read
        split at last
        · cases last
          rw [marksCons, readExactlyMarks readHours, afterMarkMarks colon, readExactlyMarks readMinutes]
          rcases sign with rfl | rfl | rfl
          · exact ⟨['+', ':'], by decide, rfl⟩
          · exact ⟨['-', ':'], by decide, rfl⟩
          · exact ⟨['\u2212', ':'], by decide, rfl⟩
        · contradiction
      · contradiction

theorem readStrictMarks {s : List Char} {t : Instant} (read : readStrict? s = some t) : marks s ∈ Spelling.strictMarks := by
  simp only [readStrict?, bind, Option.bind_eq_some_iff, Prod.exists] at read
  obtain ⟨f, s₁, fields, nano, s₂, fraction, offset, s₃, zone, last⟩ := read
  split at last
  · rename_i empty
    obtain ⟨day, amongDays, first⟩ := readStrictFieldsMarks fields
    obtain ⟨point, amongPoints, second⟩ := readFractionMarks fraction
    obtain ⟨zone, amongZones, third⟩ := readOffsetMarks zone
    have nothing : marks s₃ = [] := by rw [List.isEmpty_iff.1 empty]; rfl
    rw [first, second, third, nothing]
    refine List.mem_flatMap.2 ⟨day, amongDays, List.mem_flatMap.2 ⟨point, amongPoints, List.mem_map.2 ⟨zone, amongZones, ?_⟩⟩⟩
    simp only [List.append_assoc, List.append_nil]
  · contradiction

end Time

namespace Spelling

theorem readMarks {spelling : Spelling} {s : List Char} {d : Date} (read : spelling.read? s = some d) :
    Time.marks s ∈ spelling.marks := by
  unfold read? at read
  unfold marks
  cases layout : spelling.layout? with
  | some layout =>
    simp only [layout] at read
    split at read
    · rename_i fields whole
      obtain ⟨m, among, same⟩ := Layout.readMarks _ whole
      rw [same]
      simpa [Time.marks] using among
    · contradiction
  | none =>
    simp only [layout] at read
    obtain ⟨t, strict, -⟩ := Option.map_eq_some_iff.1 read
    exact readStrictMarks strict

theorem layoutDark {spelling : Spelling} {layout : Layout} (named : spelling.layout? = some layout) :
    layout.all Item.dark := by
  cases spelling <;> cases named <;> decide

theorem readSqueezed {spelling : Spelling} {layout : Layout} (named : spelling.layout? = some layout) {s : List Char}
    {d : Date} (read : spelling.read? s = some d) : spelling.read? (squeeze s) = some d := by
  simp only [read?, named] at read ⊢
  split at read
  · rename_i fields whole
    rw [Layout.readSqueezed layout (layoutDark named) whole]
    exact read
  · contradiction

theorem readUnique {a b : Spelling} {s : List Char} {d e : Date} (one : a.read? s = some d) (other : b.read? s = some e) :
    a = b :=
  marksApart a b _ (readMarks one) (readMarks other)

theorem dateShort (d : Date) : (Fields.ofDate d).Short := by
  obtain ⟨monthFirst, monthLast, -, dayLast⟩ := d.monthDayBounds
  have clock : 0 < 100 := by decide
  exact ⟨monthFirst, monthLast, Nat.lt_of_le_of_lt dayLast (by decide), clock, clock, clock⟩

theorem readWritten {spelling : Spelling} {layout : Layout} (named : spelling.layout? = some layout) (d : Date)
    (parted : layout.Parted (.ofDate d))
    (filled : layout.foldl (fun f item => item.fill f (.ofDate d)) {} = .ofDate d) :
    spelling.read? (spelling.write d) = some d := by
  have whole := layout.readWritten (dateShort d) {} parted
  rw [filled] at whole
  have valid : (Fields.ofDate d).clockValid := rfl
  have date : (Fields.ofDate d).date? = some d := Date.ofCivilOfDate d
  simp only [read?, write, named, Option.getD_some, whole, valid, ↓reduceIte, date]

theorem daysReadBack {spelling : Spelling} (among : spelling ∈ days) (d : Date) :
    spelling.read? (spelling.write d) = some d := by
  obtain ⟨monthFirst, monthLast, -⟩ := d.monthDayBounds
  fin_cases among
  · refine readWritten rfl d ?_ rfl
    refine ⟨?_, trivial, trivial, trivial, trivial, trivial⟩
    rintro c ⟨⟩
    rfl
  · refine readWritten rfl d ?_ rfl
    refine ⟨?_, trivial, trivial, trivial, trivial, trivial⟩
    rintro c ⟨⟩
    rfl
  · refine readWritten rfl d ?_ rfl
    refine ⟨trivial, paddedStartsDark 2 d.day _, trivial, trivial, yearStartsDark d.year _, ?_, trivial⟩
    rintro c ⟨⟩
  · refine readWritten rfl d ?_ rfl
    refine ⟨trivial, monthNameStartsDark monthFirst monthLast _, trivial, yearStartsDark d.year _, ?_, trivial⟩
    rintro c ⟨⟩

theorem writeEnds {spelling : Spelling} {front : Layout} {last : Item} (named : spelling.layout? = some (front ++ [last]))
    (d : Date) : spelling.write d = front.write (.ofDate d) ++ last.write (.ofDate d) := by
  simp [write, named, Layout.write]

theorem daysTrimmed {spelling : Spelling} (among : spelling ∈ days) (d : Date) :
    trim (spelling.write d) = spelling.write d := by
  obtain ⟨monthFirst, monthLast, -⟩ := d.monthDayBounds
  fin_cases among
  · refine trimSelf (yearStartsDark d.year _) ?_
    rw [@writeEnds .dashed [.year, .mark '-', .month, .mark '-'] .day rfl d]
    exact paddedEndsDark _ 2 d.day
  · refine trimSelf (yearStartsDark d.year _) ?_
    rw [@writeEnds .slashed [.year, .mark '/', .month, .mark '/'] .day rfl d]
    exact paddedEndsDark _ 2 d.day
  · refine trimSelf (monthNameStartsDark monthFirst monthLast _) ?_
    rw [@writeEnds .monthFirst [.monthName, .gap, .day, .mark ',', .gap] .year rfl d]
    exact yearEndsDark _ d.year
  · refine trimSelf (paddedStartsDark 2 d.day _) ?_
    rw [@writeEnds .dayFirst [.day, .gap, .monthName, .gap] .year rfl d]
    exact yearEndsDark _ d.year

theorem findRead {order : List Spelling} {spelling : Spelling} (among : spelling ∈ order) {s : List Char} {d : Date}
    (read : spelling.read? s = some d) : order.findSome? (·.read? s) = some d := by
  cases found : order.findSome? (·.read? s) with
  | none =>
    rw [List.findSome?_eq_none_iff.1 found spelling among] at read
    contradiction
  | some e =>
    obtain ⟨other, -, same⟩ := List.exists_of_findSome?_eq_some found
    rw [← readUnique read same, read] at same
    exact same.symm

theorem memAll (spelling : Spelling) : spelling ∈ all := by
  cases spelling <;> decide

end Spelling

theorem dateReadIff {s : List Char} {d : Date} :
    Date.read? s = some d ↔ ∃ spelling : Spelling, spelling.read? (trim s) = some d := by
  constructor
  · intro read
    obtain ⟨spelling, -, here⟩ := List.exists_of_findSome?_eq_some read
    exact ⟨spelling, here⟩
  · rintro ⟨spelling, here⟩
    exact Spelling.findRead (Spelling.memAll spelling) here

theorem spellingsFaithful :
    (∀ spelling ∈ Spelling.days, ∀ (d : Date) (before after : List Char), Blank before → Blank after →
      Date.read? (before ++ spelling.write d ++ after) = some d) ∧
    (∀ (s : List Char) (a b : Spelling), (a.read? (trim s)).isSome → (b.read? (trim s)).isSome → a = b) ∧
    (∀ (s : List Char) (order : List Spelling), order.Perm Spelling.all →
      order.findSome? (·.read? (trim s)) = Date.read? s) := by
  refine ⟨?_, ?_, ?_⟩
  · intro spelling among d before after front back
    have whole : trim (before ++ spelling.write d ++ after) = spelling.write d := by
      rw [trimBlank front back, Spelling.daysTrimmed among]
    rw [dateReadIff, whole]
    exact ⟨spelling, Spelling.daysReadBack among d⟩
  · intro s a b one other
    obtain ⟨d, one⟩ := Option.isSome_iff_exists.1 one
    obtain ⟨e, other⟩ := Option.isSome_iff_exists.1 other
    exact Spelling.readUnique one other
  · intro s order perm
    cases read : Date.read? s with
    | none =>
      rw [List.findSome?_eq_none_iff]
      intro spelling _
      exact List.findSome?_eq_none_iff.1 read spelling (Spelling.memAll spelling)
    | some d =>
      obtain ⟨spelling, here⟩ := dateReadIff.1 read
      exact Spelling.findRead (perm.mem_iff.2 (Spelling.memAll spelling)) here

def firstDay : Date := ⟨Calendar.daysBefore (-262143), Int.le_refl _, by decide⟩

theorem firstDayFaithful :
    Spelling.dayFirst ∈ Spelling.days ∧ Blank ['\t', ' '] ∧ Blank ['\u3000'] ∧
    Spelling.dayFirst.write firstDay = "01 Jan -262143".toList ∧
    Date.read? (['\t', ' '] ++ Spelling.dayFirst.write firstDay ++ ['\u3000']) = some firstDay ∧
    (Spelling.clocked.read? (trim "2024-03-01T08:30:60 ".toList)).isSome ∧
    (∀ b : Spelling, (b.read? (trim "2024-03-01T08:30:60 ".toList)).isSome → Spelling.clocked = b) ∧
    Spelling.all.reverse.Perm Spelling.all ∧
    Spelling.all.reverse.findSome? (·.read? (trim "2024-03-01T08:30:60 ".toList)) =
      Date.read? "2024-03-01T08:30:60 ".toList := by
  have among : Spelling.dayFirst ∈ Spelling.days := by decide
  have front : Blank ['\t', ' '] := by decide
  have back : Blank ['\u3000'] := by decide
  have reads : (Spelling.clocked.read? (trim "2024-03-01T08:30:60 ".toList)).isSome := by decide +kernel
  have reversed : Spelling.all.reverse.Perm Spelling.all := List.reverse_perm _
  exact ⟨among, front, back, by decide +kernel, spellingsFaithful.1 _ among firstDay _ _ front back, reads,
    fun b => spellingsFaithful.2.1 _ _ b reads, reversed, spellingsFaithful.2.2 _ _ reversed⟩

end Postboard
