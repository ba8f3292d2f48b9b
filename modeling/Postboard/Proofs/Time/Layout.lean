import Postboard.Proofs.Text.Squeeze
import Postboard.Proofs.Time.Written

/-! Layouts. What is written by a layout is read by it again, if every year in it is ended by what is no digit
and every gap by what is no blank. The marks of a text that a layout reads are those of the layout, whatever
digits and blanks stand around them; and the width of its blanks makes no difference. -/
namespace Postboard.Time
open Text

structure Fields.Short (f : Fields) : Prop where
  monthFirst : 1 ≤ f.month
  monthLast : f.month ≤ 12
  day : f.day < 100
  hour : f.hour < 100
  minute : f.minute < 100
  second : f.second < 100

def Item.fill (f g : Fields) : Item → Fields
  | .year => { f with year := g.year }
  | .month => { f with month := g.month }
  | .monthName => { f with month := g.month }
  | .day => { f with day := g.day }
  | .hour => { f with hour := g.hour }
  | .minute => { f with minute := g.minute }
  | .second => { f with second := g.second }
  | .mark _ => f
  | .gap => f

def Item.EndsBefore (rest : List Char) : Item → Prop
  | .year => ∀ c ∈ rest.head?, isAsciiDigit c = false
  | .gap => ∀ c ∈ rest.head?, isBlank c = false
  | _ => True

def Layout.Parted (g : Fields) : Layout → Prop
  | [] => True
  | item :: more => item.EndsBefore (Layout.write g more) ∧ Layout.Parted g more

theorem readMonthNameWritten {month : Nat} (first : 1 ≤ month) (last : month ≤ 12) (rest : List Char) :
    readMonthName (monthName month ++ rest) = some (month, rest) := by
  interval_cases month <;> rfl

theorem Item.readWritten {g : Fields} (short : g.Short) (f : Fields) {rest : List Char} (item : Item)
    (ends : item.EndsBefore rest) : item.read f (item.write g ++ rest) = some (item.fill f g, rest) := by
  cases item with
  | year => simp only [read, write, fill, readYearText g.year ends, Option.map_some]
  | month =>
    have fits : g.month < 100 := Nat.lt_of_le_of_lt short.monthLast (by decide)
    simp only [read, write, fill, readPairPadded fits, Option.map_some]
  | monthName => simp only [read, write, fill, readMonthNameWritten short.monthFirst short.monthLast, Option.map_some]
  | day => simp only [read, write, fill, readPairPadded short.day, Option.map_some]
  | hour => simp only [read, write, fill, readPairPadded short.hour, Option.map_some]
  | minute => simp only [read, write, fill, readPairPadded short.minute, Option.map_some]
  | second => simp only [read, write, fill, readPairPadded short.second, Option.map_some]
  | mark c => simp only [read, write, fill, List.cons_append, List.nil_append, ↓reduceIte]
  | gap =>
    have space : Blank [' '] := by decide
    simp only [read, write, fill, trimStartBlank space, trimStartSelf ends]

theorem Layout.readWritten {g : Fields} (short : g.Short) (layout : Layout) (f : Fields) (parted : layout.Parted g) :
    layout.read f (layout.write g) = some (layout.foldl (fun f item => item.fill f g) f, []) := by
  induction layout generalizing f with
  | nil => rfl
  | cons item more ih =>
    have here := item.readWritten short f parted.1
    rw [write, List.flatMap_cons, read, ← write, here]
    exact ih (item.fill f g) parted.2

theorem paddedStartsDark (width n : Nat) (rest : List Char) : ∀ c ∈ (padded width n ++ rest).head?, isBlank c = false := by
  obtain ⟨c, r, same, digit⟩ := paddedStart width n
  rw [same]
  rintro d ⟨⟩
  exact digitNotBlank digit

theorem paddedEndsDark (front : List Char) (width n : Nat) : ∀ c ∈ (front ++ padded width n).getLast?, isBlank c = false := by
  intro c last
  rw [List.getLast?_append_of_ne_nil _ (paddedNonempty width n)] at last
  exact digitNotBlank (paddedDigits c (List.mem_of_getLast? last))

theorem yearTextSplit (year : Int) : ∃ sign n, sign ∈ [[], ['-'], ['+']] ∧ Instant.yearText year = sign ++ padded 4 n := by
  unfold Instant.yearText
  split
  · exact ⟨[], _, by decide, rfl⟩
  · split
    · exact ⟨['-'], _, by decide, rfl⟩
    · exact ⟨['+'], _, by decide, rfl⟩

theorem yearStartsDark (year : Int) (rest : List Char) :
    ∀ c ∈ (Instant.yearText year ++ rest).head?, isBlank c = false := by
  obtain ⟨sign, n, among, same⟩ := yearTextSplit year
  rw [same, List.append_assoc]
  fin_cases among
  · exact paddedStartsDark 4 n rest
  · rintro c ⟨⟩
    rfl
  · rintro c ⟨⟩
    rfl

theorem yearEndsDark (front : List Char) (year : Int) : ∀ c ∈ (front ++ Instant.yearText year).getLast?, isBlank c = false := by
  obtain ⟨sign, n, -, same⟩ := yearTextSplit year
  rw [same, ← List.append_assoc]
  exact paddedEndsDark _ 4 n

theorem monthNameStartsDark {month : Nat} (first : 1 ≤ month) (last : month ≤ 12) (rest : List Char) :
    ∀ c ∈ (monthName month ++ rest).head?, isBlank c = false := by
  interval_cases month <;>
  · rintro c ⟨⟩
    rfl

def marks (s : List Char) : List Char := (s.map Char.toLower).filter fun c => !isBlank c && !isAsciiDigit c

def Item.marks : Item → List (List Char)
  | .year => [[], ['-'], ['+']]
  | .monthName => monthNames.map (·.map Char.toLower)
  | .mark c => [Time.marks [c]]
  | _ => [[]]

def Layout.marks : Layout → List (List Char)
  | [] => [[]]
  | item :: more => item.marks.flatMap fun m => (Layout.marks more).map (m ++ ·)

theorem marksAppend (a b : List Char) : marks (a ++ b) = marks a ++ marks b := by
  simp [marks]

theorem marksCons (c : Char) (r : List Char) : marks (c :: r) = marks [c] ++ marks r := marksAppend [c] r

theorem lowerUnmarked {c : Char} (unmarked : isBlank c ∨ isAsciiDigit c) : c.toLower = c := by
  apply Char.toLower_eq_of_not_isUpper
  intro upper
  simp only [Char.isUpper, decide_eq_true_eq] at upper
  have low : 65 ≤ c.toNat := upper.1
  have high : c.toNat ≤ 90 := upper.2
  rcases unmarked with blank | digit
  · simp only [isBlank, Bool.or_eq_true, Bool.and_eq_true, decide_eq_true_eq, beq_iff_eq] at blank
    omega
  · simp only [isAsciiDigit, Bool.and_eq_true, decide_eq_true_eq] at digit
    have most : c.toNat ≤ 57 := digit.2
    omega

theorem marksUnmarked {s : List Char} (unmarked : ∀ c ∈ s, isBlank c ∨ isAsciiDigit c) : marks s = [] := by
  rw [marks, List.filter_eq_nil_iff]
  intro c inside
  obtain ⟨d, among, rfl⟩ := List.mem_map.1 inside
  rw [lowerUnmarked (unmarked d among)]
  rcases unmarked d among with blank | digit <;> simp [*]

theorem marksInfix {a b : List Char} (inside : a <:+: b) : marks a <:+: marks b := by
  obtain ⟨before, after, rfl⟩ := inside
  rw [marksAppend, marksAppend]
  exact ⟨_, _, rfl⟩

theorem marksTrimStart (s : List Char) : marks (trimStart s) = marks s := by
  obtain ⟨before, blank, whole⟩ := trimStartSplit s
  conv_rhs => rw [whole, marksAppend, marksUnmarked fun c inside => .inl (blank c inside), List.nil_append]

theorem marksTrim (s : List Char) : marks (trim s) = marks s := by
  obtain ⟨before, after, front, back, whole⟩ := trimSplit s
  conv_rhs => rw [whole, marksAppend, marksAppend, marksUnmarked fun c inside => .inl (front c inside),
    marksUnmarked fun c inside => .inl (back c inside), List.nil_append, List.append_nil]

theorem digitsStart (width : Nat) (s : List Char) : (s.take width).takeWhile isAsciiDigit <+: s :=
  (List.takeWhile_prefix _).trans (List.take_prefix _ _)

theorem readNumberSplit {width : Nat} {s r : List Char} {n : Nat} (read : readNumber width s = some (n, r)) :
    ∃ digits, (∀ c ∈ digits, isAsciiDigit c) ∧ s = digits ++ r := by
  unfold readNumber at read
  dsimp only at read
  split at read
  · contradiction
  · cases read
    exact ⟨_, List.all_eq_true.1 List.all_takeWhile, (List.prefix_iff_eq_append.1 (digitsStart width s)).symm⟩

theorem readNumberMarks {width : Nat} {s r : List Char} {n : Nat} (read : readNumber width s = some (n, r)) :
    marks s = marks r := by
  obtain ⟨digits, all, rfl⟩ := readNumberSplit read
  rw [marksAppend, marksUnmarked fun c inside => .inr (all c inside), List.nil_append]

theorem readPairMarks {s r : List Char} {n : Nat} (read : readPair s = some (n, r)) : marks s = marks r := by
  rw [← marksTrimStart, readNumberMarks read]

theorem readYearMarks {s r : List Char} {year : Int} (read : readYear s = some (year, r)) :
    ∃ m ∈ Item.year.marks, marks s = m ++ marks r := by
  rw [← marksTrimStart]
  unfold readYear at read
  split at read
  · rename_i rest start
    obtain ⟨⟨n, r'⟩, number, ⟨⟩⟩ := Option.map_eq_some_iff.1 read
    refine ⟨['-'], by decide, ?_⟩
    rw [start, marksCons, readNumberMarks number]
    rfl
  · rename_i rest start
    obtain ⟨⟨n, r'⟩, number, ⟨⟩⟩ := Option.map_eq_some_iff.1 read
    refine ⟨['+'], by decide, ?_⟩
    rw [start, marksCons, readNumberMarks number]
    rfl
  · obtain ⟨⟨n, r'⟩, number, ⟨⟩⟩ := Option.map_eq_some_iff.1 read
    exact ⟨[], by decide, readNumberMarks number⟩

theorem readMonthNameSplit {s r : List Char} {month : Nat} (read : readMonthName s = some (month, r)) :
    ∃ name, s = name ++ r ∧ name.map Char.toLower ∈ Item.monthName.marks ∧
      ∀ t, readMonthName (name ++ t) = some (month, t) := by
  unfold readMonthName at read
  dsimp only at read
  obtain ⟨i, found, same⟩ := Option.map_eq_some_iff.1 read
  cases same
  obtain ⟨inside, known, -⟩ := List.findIdx?_eq_some_iff_getElem.1 found
  have among : (s.take 3).map Char.toLower ∈ Item.monthName.marks :=
    of_decide_eq_true known ▸ List.mem_map_of_mem (List.getElem_mem inside)
  have three : ∀ m ∈ Item.monthName.marks, m.length = 3 := by decide
  have length : (s.take 3).length = 3 := List.length_map _ ▸ three _ among
  refine ⟨s.take 3, (List.take_append_drop 3 s).symm, among, fun t => ?_⟩
  rw [readMonthName, List.take_left' length, List.drop_left' length]
  simp only [found, Option.map_some]

theorem namesLettered : ∀ m ∈ Item.monthName.marks, m.filter (fun c => !isBlank c && !isAsciiDigit c) = m := by
  decide

theorem readMonthNameMarks {s r : List Char} {month : Nat} (read : readMonthName s = some (month, r)) :
    ∃ m ∈ Item.monthName.marks, marks s = m ++ marks r := by
  obtain ⟨name, rfl, among, -⟩ := readMonthNameSplit read
  refine ⟨_, among, ?_⟩
  rw [marksAppend, marks, namesLettered _ among]

theorem Item.readMark {f g : Fields} {s r : List Char} {c : Char} (read : (Item.mark c).read f s = some (g, r)) :
    s = c :: r ∧ g = f := by
  cases s with
  | nil => contradiction
  | cons d s =>
    simp only [Item.read] at read
    split at read
    · rename_i same
      cases read
      exact ⟨same ▸ rfl, rfl⟩
    · contradiction

theorem Item.readMarks {f g : Fields} {s r : List Char} (item : Item) (read : item.read f s = some (g, r)) :
    ∃ m ∈ item.marks, Time.marks s = m ++ Time.marks r := by
  have none : [] ∈ [([] : List Char)] := List.mem_singleton_self _
  cases item with
  | year =>
    obtain ⟨⟨n, r'⟩, number, ⟨⟩⟩ := Option.map_eq_some_iff.1 read
    exact readYearMarks number
  | monthName =>
    obtain ⟨⟨n, r'⟩, number, ⟨⟩⟩ := Option.map_eq_some_iff.1 read
    exact readMonthNameMarks number
  | mark c =>
    obtain ⟨rfl, rfl⟩ := Item.readMark read
    exact ⟨_, List.mem_singleton_self _, marksCons _ _⟩
  | gap =>
    cases read
    exact ⟨[], none, (marksTrimStart s).symm⟩
  | month | day | hour | minute | second =>
    obtain ⟨⟨n, r'⟩, number, ⟨⟩⟩ := Option.map_eq_some_iff.1 read
    exact ⟨[], none, readPairMarks number⟩

theorem Layout.readMarks {f g : Fields} {s r : List Char} (layout : Layout) (read : layout.read f s = some (g, r)) :
    ∃ m ∈ layout.marks, Time.marks s = m ++ Time.marks r := by
  induction layout generalizing f s with
  | nil =>
    cases read
    exact ⟨[], List.mem_singleton_self _, rfl⟩
  | cons item more ih =>
    rw [Layout.read] at read
    split at read
    · rename_i first
      obtain ⟨m, among, here⟩ := item.readMarks first
      obtain ⟨ms, others, rest⟩ := ih read
      refine ⟨m ++ ms, List.mem_flatMap.2 ⟨m, among, List.mem_map_of_mem others⟩, ?_⟩
      rw [here, rest, List.append_assoc]
    · contradiction

theorem marksSqueeze (s : List Char) : marks (squeeze s) = marks s := by
  induction s with
  | nil => rfl
  | cons c r ih =>
    rw [marksCons c r, ← ih]
    cases blank : isBlank c with
    | false => rw [squeezeDark blank, marksCons]
    | true =>
      have none : marks [c] = [] := marksUnmarked (by simp [blank])
      rw [none, List.nil_append]
      cases run : startsBlank r with
      | true => rw [squeezeRun blank run]
      | false =>
        rw [squeezeLast blank run, marksCons]
        rfl

theorem digitsSqueezed (width : Nat) (s : List Char) :
    ((squeeze s).take width).takeWhile isAsciiDigit = (s.take width).takeWhile isAsciiDigit := by
  have none : ∀ {c} (r : List Char) (width : Nat), isBlank c → ((c :: r).take width).takeWhile isAsciiDigit = [] := by
    intro c r width blank
    cases width with
    | zero => rfl
    | succ width =>
      have other : isAsciiDigit c = false := by
        rw [← Bool.not_eq_true]
        intro digit
        rw [digitNotBlank digit] at blank
        contradiction
      rw [List.take_succ_cons, List.takeWhile_cons_of_neg (by simp [other])]
  induction s generalizing width with
  | nil => rfl
  | cons c r ih =>
    cases blank : isBlank c with
    | false =>
      rw [squeezeDark blank]
      cases width with
      | zero => rfl
      | succ width => rw [List.take_succ_cons, List.take_succ_cons, List.takeWhile_cons, List.takeWhile_cons, ih]
    | true =>
      rw [none r width blank]
      cases run : startsBlank r with
      | true =>
        rw [squeezeRun blank run, ih]
        cases r with
        | nil => contradiction
        | cons d r => exact none r width run
      | false =>
        rw [squeezeLast blank run]
        exact none _ width rfl

theorem readNumberSqueezed {width n : Nat} {s r : List Char} (read : readNumber width s = some (n, r)) :
    readNumber width (squeeze s) = some (n, squeeze r) := by
  unfold readNumber at read ⊢
  rw [digitsSqueezed]
  dsimp only at read ⊢
  split at read
  · contradiction
  · rename_i some
    cases read
    have dark : ∀ c ∈ (s.take width).takeWhile isAsciiDigit, isBlank c = false :=
      fun c inside => digitNotBlank (List.mem_takeWhile_imp inside)
    have rest : (squeeze s).drop ((s.take width).takeWhile isAsciiDigit).length =
        squeeze (s.drop ((s.take width).takeWhile isAsciiDigit).length) := by
      obtain ⟨t, whole⟩ := digitsStart width s
      generalize (s.take width).takeWhile isAsciiDigit = digits at dark whole
      rw [← whole, squeezePrefix dark, List.drop_left, List.drop_left]
    rw [if_neg some, rest]

theorem readNumberWide {width : Nat} {s : List Char} (wide : s.length ≤ width) : readNumber width s = readNumber s.length s := by
  rw [readNumber, readNumber, List.take_of_length_le wide, List.take_length]

theorem readYearSqueezed {s r : List Char} {year : Int} (read : readYear s = some (year, r)) :
    readYear (squeeze s) = some (year, squeeze r) := by
  have start := trimStartStartsDark s
  unfold readYear at read ⊢
  rw [squeezeTrimStart]
  generalize trimStart s = t at read start ⊢
  cases t with
  | nil => contradiction
  | cons c t =>
    have signed : ∀ {n}, readNumber t.length t = some (n, r) →
        readNumber (squeeze t).length (squeeze t) = some (n, squeeze r) := by
      intro n number
      rw [← readNumberWide (squeezeLength t), readNumberSqueezed number]
    rw [squeezeDark (start c rfl)]
    split at read
    · rename_i same
      cases same
      obtain ⟨⟨n, r'⟩, number, ⟨⟩⟩ := Option.map_eq_some_iff.1 read
      simp only [signed number, Option.map_some]
    · rename_i same
      cases same
      obtain ⟨⟨n, r'⟩, number, ⟨⟩⟩ := Option.map_eq_some_iff.1 read
      simp only [signed number, Option.map_some]
    · rename_i notMinus notPlus
      obtain ⟨⟨n, r'⟩, number, ⟨⟩⟩ := Option.map_eq_some_iff.1 read
      have squeezed := readNumberSqueezed number
      rw [squeezeDark (start c rfl)] at squeezed
      split
      · rename_i same
        cases same
        exact (notMinus t rfl).elim
      · rename_i same
        cases same
        exact (notPlus t rfl).elim
      · rw [squeezed, Option.map_some]

theorem readMonthNameSqueezed {s r : List Char} {month : Nat} (read : readMonthName s = some (month, r)) :
    readMonthName (squeeze s) = some (month, squeeze r) := by
  obtain ⟨name, rfl, among, any⟩ := readMonthNameSplit read
  have dark : ∀ c ∈ name, isBlank c = false := by
    intro c inside
    have lettered := List.filter_eq_self.1 (namesLettered _ among) _ (List.mem_map_of_mem inside)
    rw [← Bool.not_eq_true]
    intro blank
    simp [lowerUnmarked (.inl blank), blank] at lettered
  rw [squeezePrefix dark, any]

/-- A mark that is a blank would be lost among the blanks around it. -/
def Item.dark : Item → Bool
  | .mark c => !isBlank c
  | _ => true

theorem Item.readSqueezed {f g : Fields} {s r : List Char} (item : Item) (dark : item.dark)
    (read : item.read f s = some (g, r)) : item.read f (squeeze s) = some (g, squeeze r) := by
  cases item with
  | year =>
    obtain ⟨⟨n, r'⟩, number, ⟨⟩⟩ := Option.map_eq_some_iff.1 read
    simp only [Item.read, readYearSqueezed number, Option.map_some]
  | monthName =>
    obtain ⟨⟨n, r'⟩, number, ⟨⟩⟩ := Option.map_eq_some_iff.1 read
    simp only [Item.read, readMonthNameSqueezed number, Option.map_some]
  | mark c =>
    obtain ⟨rfl, rfl⟩ := Item.readMark read
    have notBlank : isBlank c = false := by simpa only [Item.dark, Bool.not_eq_true'] using dark
    rw [squeezeDark notBlank]
    simp only [Item.read, ↓reduceIte]
  | gap =>
    cases read
    simp only [Item.read, squeezeTrimStart]
  | month | day | hour | minute | second =>
    obtain ⟨⟨n, r'⟩, number, ⟨⟩⟩ := Option.map_eq_some_iff.1 read
    have squeezed := readNumberSqueezed number
    rw [← squeezeTrimStart] at squeezed
    simp only [Item.read, readPair, squeezed, Option.map_some]

theorem Layout.readSqueezed {f g : Fields} {s r : List Char} (layout : Layout) (dark : layout.all Item.dark)
    (read : layout.read f s = some (g, r)) : layout.read f (squeeze s) = some (g, squeeze r) := by
  induction layout generalizing f s with
  | nil =>
    cases read
    rfl
  | cons item more ih =>
    rw [List.all_cons, Bool.and_eq_true] at dark
    rw [Layout.read] at read ⊢
    split at read
    · rename_i first
      rw [item.readSqueezed dark.1 first]
      exact ih dark.2 read
    · contradiction

end Postboard.Time
