import Postboard.Proofs.Filter.Days

/-! What a term about a counter means. It is a range or a comparison and never both; a side of a range that
names no count leaves that side open, and zeros in front of a number change nothing. -/
namespace Postboard
open Text

def Operator.Relates : Operator → Nat → Nat → Prop
  | .eq, count, n => count = n
  | .gte, count, n => n ≤ count
  | .lte, count, n => count ≤ n
  | .gt, count, n => n < count
  | .lt, count, n => count < n
  | .like, _, _ => False

theorem Operator.holdsCount (op : Operator) (a b : UInt64) :
    op.holds (compare a b) ↔ op.Relates a.toNat b.toNat := by
  rw [UInt64.compare_eq_toNat_compare_toNat]
  cases op <;> simp [holds, Relates, Nat.compare_eq_lt, Nat.compare_eq_gt]

inductive Category.Counts : Category → (Post → UInt64) → Prop where
  | likes : Counts .likes Post.likes
  | retweets : Counts .retweets Post.retweets

namespace CountTerm

structure Digits (s : List Char) : Prop where
  present : s ≠ []
  decimal : ∀ c ∈ s, isDecimalDigit c

structure Names (digits : List Char) (n : Nat) : Prop where
  present : digits ≠ []
  ascii : ∀ c ∈ digits, isAsciiDigit c
  value : decimalValue digits = n
  fits : n < UInt64.size

structure Range (w low high : List Char) : Prop where
  here : w = low ++ '-' :: high
  low : Digits low
  high : Digits high

inductive Sign : List Char → Operator → Prop where
  | none : Sign [] .eq
  | eq : Sign ['='] .eq
  | gte : Sign ['>', '='] .gte
  | lte : Sign ['<', '='] .lte
  | gt : Sign ['>'] .gt
  | lt : Sign ['<'] .lt

inductive Compares : List Char → Operator → Nat → Prop where
  | signed {sign digits : List Char} {op : Operator} {n : Nat} (signs : Sign sign op) (names : Names digits n) :
      Compares (sign ++ digits) op n

structure Asks (w : List Char) (count : Nat) : Prop where
  atLeast : ∀ low high n, Range w low high → Names low n → n ≤ count
  atMost : ∀ low high n, Range w low high → Names high n → count ≤ n
  compared : (∀ low high, ¬Range w low high) → ∀ op n, Compares w op n → op.Relates count n

inductive ZerosAdded : List Char → List Char → Prop where
  | range {w low high : List Char} (range : Range w low high) (i j : Nat) :
      ZerosAdded w ((List.replicate i '0' ++ low) ++ '-' :: (List.replicate j '0' ++ high))
  | compared {sign digits : List Char} {op : Operator} (signs : Sign sign op) (number : Digits digits) (i : Nat) :
      ZerosAdded (sign ++ digits) (sign ++ (List.replicate i '0' ++ digits))

theorem Names.digits {digits : List Char} {n : Nat} (names : Names digits n) : Digits digits :=
  ⟨names.present, fun c inside => decimalOfAscii (names.ascii c inside)⟩

theorem Digits.padded {digits : List Char} (number : Digits digits) (i : Nat) :
    Digits (List.replicate i '0' ++ digits) := by
  refine ⟨List.append_ne_nil_of_right_ne_nil _ number.present, ?_⟩
  intro c inside
  rcases List.mem_append.1 inside with zero | digit
  · rw [List.eq_of_mem_replicate zero]
    decide
  · exact number.decimal c digit

theorem Digits.without {digits : List Char} (number : Digits digits) {mark : Char}
    (other : isDecimalDigit mark = false) : mark ∉ digits := by
  intro inside
  have digit := number.decimal mark inside
  rw [other] at digit
  contradiction

theorem rangeIff {w low high : List Char} : sides? w = some (low, high) ↔ Range w low high := by
  constructor
  · intro read
    unfold sides? at read
    dsimp only at read
    split at read
    · rename_i after rest
      split at read
      · rename_i digits
        obtain ⟨lowSome, highSome, highDecimal⟩ := digits
        cases read
        refine ⟨?_, ⟨by simpa using lowSome, List.all_eq_true.1 List.all_takeWhile⟩,
          ⟨by simpa using highSome, List.all_eq_true.1 highDecimal⟩⟩
        rw [← rest, List.takeWhile_append_dropWhile]
      · contradiction
    · contradiction
  · rintro ⟨rfl, lower, upper⟩
    have hyphen : isDecimalDigit '-' = false := by decide
    have digits : ¬low.isEmpty ∧ ¬high.isEmpty ∧ high.all isDecimalDigit :=
      ⟨by simpa using lower.present, by simpa using upper.present, List.all_eq_true.2 upper.decimal⟩
    unfold sides?
    simp only [List.takeWhile_append_of_pos lower.decimal, List.dropWhile_append_of_pos lower.decimal,
      List.takeWhile_cons_of_neg (Bool.not_eq_true _ ▸ hyphen), List.dropWhile_cons_of_neg (Bool.not_eq_true _ ▸ hyphen),
      List.append_nil]
    exact if_pos digits

theorem readCountIff {digits : List Char} {n : UInt64} : readCount? digits = some n ↔ Names digits n.toNat := by
  unfold readCount?
  dsimp only
  constructor
  · intro read
    split at read
    · rename_i count
      obtain ⟨present, ascii, fits⟩ := count
      obtain rfl := Option.some.inj read
      have value := (UInt64.toNat_ofNat_of_lt' fits).symm
      exact ⟨by simpa using present, List.all_eq_true.1 ascii, value, value ▸ fits⟩
    · contradiction
  · intro names
    have count : ¬digits.isEmpty ∧ digits.all isAsciiDigit ∧ decimalValue digits < UInt64.size :=
      ⟨by simpa using names.present, List.all_eq_true.2 names.ascii, names.value ▸ names.fits⟩
    rw [if_pos count, names.value, UInt64.ofNat_toNat]

theorem namesIff {digits : List Char} {n : Nat} :
    Names digits n ↔ ∃ count, readCount? digits = some count ∧ count.toNat = n := by
  constructor
  · intro names
    have value := UInt64.toNat_ofNat_of_lt' names.fits
    exact ⟨UInt64.ofNat n, readCountIff.2 (value.symm ▸ names), value⟩
  · rintro ⟨count, read, rfl⟩
    exact readCountIff.1 read

theorem readCountPadded {digits : List Char} (present : digits ≠ []) (i : Nat) :
    readCount? (List.replicate i '0' ++ digits) = readCount? digits := by
  have value : decimalValue (List.replicate i '0' ++ digits) = decimalValue digits := by
    simp [decimalValue, Nat.ofDigitChars_append]
  have zero : isAsciiDigit '0' := by decide
  have ascii : (List.replicate i '0' ++ digits).all isAsciiDigit = digits.all isAsciiDigit := by
    rw [List.all_append, List.all_replicate, zero, ite_self, Bool.true_and]
  have empty : (List.replicate i '0' ++ digits).isEmpty = digits.isEmpty := by
    rw [List.isEmpty_eq_false_iff.2 present, List.isEmpty_eq_false_iff.2 (List.append_ne_nil_of_right_ne_nil _ present)]
  unfold readCount?
  rw [value, ascii, empty]

theorem splitSigned {sign digits : List Char} {op : Operator} (signs : Sign sign op) (number : Digits digits) :
    splitOperator (sign ++ digits) = (op, digits) := by
  obtain ⟨c, r, rfl⟩ := List.exists_cons_of_ne_nil number.present
  have unsigned : c ≠ '=' ∧ c ≠ '>' ∧ c ≠ '<' := by
    have digit := number.decimal c List.mem_cons_self
    refine ⟨?_, ?_, ?_⟩ <;>
    · rintro rfl
      contradiction
  cases signs with
  | gte => rfl
  | lte => rfl
  | eq => rfl
  | none => simp [splitOperator, unsigned]
  | gt => simp [splitOperator, unsigned]
  | lt => simp [splitOperator, unsigned]

theorem signSplit (w : List Char) : ∃ sign, Sign sign (splitOperator w).1 ∧ w = sign ++ (splitOperator w).2 := by
  unfold splitOperator
  split
  · exact ⟨_, .gte, rfl⟩
  · exact ⟨_, .lte, rfl⟩
  · exact ⟨_, .gt, rfl⟩
  · exact ⟨_, .lt, rfl⟩
  · exact ⟨_, .eq, rfl⟩
  · exact ⟨_, .none, rfl⟩

theorem comparesIff {w : List Char} {op : Operator} {n : Nat} :
    Compares w op n ↔ (splitOperator w).1 = op ∧ Names (splitOperator w).2 n := by
  constructor
  · rintro ⟨signs, names⟩
    rw [splitSigned signs names.digits]
    exact ⟨rfl, names⟩
  · rintro ⟨rfl, names⟩
    obtain ⟨sign, signs, whole⟩ := signSplit w
    have compares := Compares.signed signs names
    rwa [← whole] at compares

theorem signedNotRange {sign digits low high : List Char} {op : Operator} (signs : Sign sign op)
    (number : Digits digits) : ¬Range (sign ++ digits) low high := by
  intro range
  have hyphen : '-' ∈ sign ++ digits := range.here ▸ List.mem_append_right low List.mem_cons_self
  rcases List.mem_append.1 hyphen with inSign | inDigits
  · cases signs <;> simp at inSign
  · exact number.without (by decide) inDigits

theorem comparedNotRange {w low high : List Char} {op : Operator} {n : Nat} (compares : Compares w op n) :
    ¬Range w low high := by
  obtain ⟨signs, names⟩ := compares
  exact signedNotRange signs names.digits

theorem asksRange {w low high : List Char} (sides : Range w low high) (count : Nat) :
    Asks w count ↔ (∀ n, Names low n → n ≤ count) ∧ ∀ n, Names high n → count ≤ n := by
  constructor
  · intro asks
    exact ⟨fun n => asks.atLeast low high n sides, fun n => asks.atMost low high n sides⟩
  · rintro ⟨lower, upper⟩
    have same : ∀ a b, Range w a b → low = a ∧ high = b := by
      intro a b other
      simpa using (rangeIff.2 sides).symm.trans (rangeIff.2 other)
    refine ⟨?_, ?_, fun noRange => absurd sides (noRange low high)⟩
    · intro a b n other names
      obtain ⟨rfl, rfl⟩ := same a b other
      exact lower n names
    · intro a b n other names
      obtain ⟨rfl, rfl⟩ := same a b other
      exact upper n names

theorem asksCompared {w : List Char} (noRange : ∀ low high, ¬Range w low high) (count : Nat) :
    Asks w count ↔ ∀ op n, Compares w op n → op.Relates count n :=
  ⟨fun asks => asks.compared noRange, fun compared =>
    ⟨fun a b _ range => absurd range (noRange a b), fun a b _ range => absurd range (noRange a b), fun _ => compared⟩⟩

variable {term : List Char} (field : Field)

theorem rangeClauses {low high : List Char} (sides : Range (dropBlanks term) low high) :
    ((read? term).map (clauses field)).getD [] = (range (readCount? low) (readCount? high)).clauses field := by
  unfold read?
  dsimp only
  rw [rangeIff.2 sides]
  dsimp only
  cases readCount? low <;> cases readCount? high <;> rfl

theorem comparedClauses (noRange : ∀ low high, ¬Range (dropBlanks term) low high) :
    ((read? term).map (clauses field)).getD [] =
      ((readCount? (splitOperator (dropBlanks term)).2).map fun n =>
        [Clause.only (.count field (splitOperator (dropBlanks term)).1 n)]).getD [] := by
  have none : sides? (dropBlanks term) = none := by
    rw [Option.eq_none_iff_forall_ne_some]
    exact fun sides found => noRange sides.1 sides.2 (rangeIff.1 found)
  unfold read?
  dsimp only
  rw [none]
  cases readCount? (splitOperator (dropBlanks term)).2 <;> rfl

theorem paddedClauses {other : List Char} (zeros : ZerosAdded (dropBlanks term) (dropBlanks other)) :
    ((read? other).map (clauses field)).getD [] = ((read? term).map (clauses field)).getD [] := by
  generalize plain : dropBlanks term = w at zeros
  generalize padded : dropBlanks other = v at zeros
  cases zeros with
  | @range _ low high sides i j =>
    have wider : Range (dropBlanks other) (List.replicate i '0' ++ low) (List.replicate j '0' ++ high) :=
      ⟨padded, sides.low.padded i, sides.high.padded j⟩
    rw [rangeClauses field wider, rangeClauses field (plain ▸ sides), readCountPadded sides.low.present,
      readCountPadded sides.high.present]
  | @compared sign digits op signs number i =>
    have noRange : ∀ low high, ¬Range (dropBlanks term) low high := by
      rw [plain]
      exact fun low high => signedNotRange signs number
    have noWiderRange : ∀ low high, ¬Range (dropBlanks other) low high := by
      rw [padded]
      exact fun low high => signedNotRange signs (number.padded i)
    rw [comparedClauses field noRange, comparedClauses field noWiderRange, plain, padded,
      splitSigned signs number, splitSigned signs (number.padded i), readCountPadded number.present]

end CountTerm

open CountTerm

/- A term of blanks alone is neither a range nor a comparison. -/
theorem readUntrimmed (field : Field) (s : List Char) :
    (if (trim s).isEmpty then [] else ((read? (trim s)).map (clauses field)).getD []) =
      ((read? s).map (clauses field)).getD [] := by
  have trimmed : read? (trim s) = read? s := by
    unfold read?
    rw [dropBlanksTrim]
  split
  · rename_i blank
    rw [← trimmed, List.isEmpty_iff.1 blank]
    rfl
  · rw [trimmed]

theorem selectsOnly (c : Comparison) (p : Post) : Plan.selects [.only c] p = c.matchesPost p := by
  simp only [Plan.selects, Clause.matchesPost, Clause.comparisons, List.all_cons, List.all_nil, List.any_cons,
    List.any_nil, Bool.or_false, Bool.and_true]

theorem countClauses {category : Category} {counter : Post → UInt64} (counts : category.Counts counter) :
    ∃ field,
      (∀ term, SearchInput.clauses ⟨term, category⟩ = ((read? term.toList).map (clauses field)).getD []) ∧
      ∀ op n p, Plan.selects [.only (.count field op n)] p ↔ op.Relates (counter p).toNat n.toNat := by
  cases counts with
  | likes =>
    refine ⟨.likes, fun term => readUntrimmed .likes term.toList, fun op n p => ?_⟩
    rw [selectsOnly]
    exact op.holdsCount p.likes n
  | retweets =>
    refine ⟨.retweets, fun term => readUntrimmed .retweets term.toList, fun op n p => ?_⟩
    rw [selectsOnly]
    exact op.holdsCount p.retweets n

section
variable {field : Field} {p : Post} {count : Nat}
  (holds : ∀ op n, Plan.selects [.only (.count field op n)] p ↔ op.Relates count n.toNat)
include holds

theorem selectsRange (low high : List Char) :
    Plan.selects ((range (readCount? low) (readCount? high)).clauses field) p ↔
      (∀ n, Names low n → n ≤ count) ∧ ∀ n, Names high n → count ≤ n := by
  have lower : Plan.selects ((readCount? low).toList.map fun n => .only (.count field .gte n)) p ↔
      ∀ n, Names low n → n ≤ count := by
    cases read : readCount? low with
    | none => simp [Plan.selects, namesIff, read]
    | some n => simp [holds, Operator.Relates, namesIff, read]
  have upper : Plan.selects ((readCount? high).toList.map fun n => .only (.count field .lte n)) p ↔
      ∀ n, Names high n → count ≤ n := by
    cases read : readCount? high with
    | none => simp [Plan.selects, namesIff, read]
    | some n => simp [holds, Operator.Relates, namesIff, read]
  rw [CountTerm.clauses, selectsAppend, lower, upper]

theorem selectsCompared (w : List Char) :
    Plan.selects (((readCount? (splitOperator w).2).map fun n =>
      [Clause.only (.count field (splitOperator w).1 n)]).getD []) p ↔ ∀ op n, Compares w op n → op.Relates count n := by
  cases read : readCount? (splitOperator w).2 with
  | none => simp [Plan.selects, comparesIff, namesIff, read]
  | some n => simp [holds, comparesIff, namesIff, read]

end

theorem countTermAsks {category : Category} {counter : Post → UInt64} (counts : category.Counts counter)
    (term : String) :
    let w := dropBlanks term.toList
    (∀ p, Plan.selects (SearchInput.clauses ⟨term, category⟩) p ↔ Asks w (counter p).toNat) ∧
    ((∀ low high, ¬Range w low high) → (∀ op n, ¬Compares w op n) →
      SearchInput.clauses ⟨term, category⟩ = [] ∧ ∀ p, Plan.selects (SearchInput.clauses ⟨term, category⟩) p) ∧
    (∀ low high op n, Range w low high → ¬Compares w op n) ∧
    (∀ other : String, ZerosAdded w (dropBlanks other.toList) →
      SearchInput.clauses ⟨other, category⟩ = SearchInput.clauses ⟨term, category⟩) := by
  intro w
  obtain ⟨field, asked, holds⟩ := countClauses counts
  refine ⟨?_, ?_, fun low high op n range compares => comparedNotRange compares range, ?_⟩
  · intro p
    rw [asked]
    by_cases sides : ∃ low high, Range w low high
    · obtain ⟨low, high, range⟩ := sides
      rw [rangeClauses field range, selectsRange (holds · · p), asksRange range]
    · have noRange : ∀ low high, ¬Range w low high := fun low high range => sides ⟨low, high, range⟩
      rw [comparedClauses field noRange, selectsCompared (holds · · p), asksCompared noRange]
  · intro noRange noComparison
    have unread : readCount? (splitOperator w).2 = none := by
      rw [Option.eq_none_iff_forall_ne_some]
      exact fun n read => noComparison _ _ (comparesIff.2 ⟨rfl, readCountIff.1 read⟩)
    have nothing : SearchInput.clauses ⟨term, category⟩ = [] := by
      rw [asked, comparedClauses field noRange, unread]
      rfl
    rw [nothing]
    exact ⟨rfl, fun _ => rfl⟩
  · intro other zeros
    rw [asked, asked, paddedClauses field zeros]

theorem openRangeAsks :
    Category.Counts .likes Post.likes ∧
    ZerosAdded (dropBlanks "10 - 18446744073709551616".toList) (dropBlanks "0010-018446744073709551616".toList) ∧
    SearchInput.clauses ⟨"0010-018446744073709551616", .likes⟩ =
      SearchInput.clauses ⟨"10 - 18446744073709551616", .likes⟩ ∧
    Range (dropBlanks "10 - 18446744073709551616".toList) "10".toList "18446744073709551616".toList ∧
    (∀ op n, ¬Compares (dropBlanks "10 - 18446744073709551616".toList) op n) ∧
    (∀ p, Plan.selects (SearchInput.clauses ⟨"10 - 18446744073709551616", .likes⟩) p ↔
      Asks (dropBlanks "10 - 18446744073709551616".toList) p.likes.toNat) ∧
    (∀ low high, ¬Range (dropBlanks "10 -".toList) low high) ∧ (∀ op n, ¬Compares (dropBlanks "10 -".toList) op n) ∧
    SearchInput.clauses ⟨"10 -", .likes⟩ = [] := by
  have asks := countTermAsks .likes "10 - 18446744073709551616"
  have range : Range (dropBlanks "10 - 18446744073709551616".toList) "10".toList "18446744073709551616".toList :=
    rangeIff.1 (by decide)
  have zeros : ZerosAdded (dropBlanks "10 - 18446744073709551616".toList)
      (dropBlanks "0010-018446744073709551616".toList) := by
    have wider : dropBlanks "0010-018446744073709551616".toList =
        (List.replicate 2 '0' ++ "10".toList) ++ '-' :: (List.replicate 1 '0' ++ "18446744073709551616".toList) := by
      decide
    rw [wider]
    exact .range range 2 1
  have noRange : ∀ low high, ¬Range (dropBlanks "10 -".toList) low high := by
    intro low high sides
    have none : sides? (dropBlanks "10 -".toList) = none := by decide
    rw [rangeIff.2 sides] at none
    contradiction
  have noComparison : ∀ op n, ¬Compares (dropBlanks "10 -".toList) op n := by
    intro op n compares
    have unread : readCount? (splitOperator (dropBlanks "10 -".toList)).2 = none := by decide
    obtain ⟨-, names⟩ := comparesIff.1 compares
    obtain ⟨count, read, -⟩ := namesIff.1 names
    rw [read] at unread
    contradiction
  exact ⟨.likes, zeros, asks.2.2.2 _ zeros, range, fun op n => asks.2.2.1 _ _ op n range, asks.1, noRange, noComparison,
    ((countTermAsks .likes "10 -").2.1 noRange noComparison).1⟩

end Postboard
