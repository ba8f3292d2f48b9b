import Postboard.Proofs.Text.Parts
import Postboard.Store

/-! What a term about dates means for the day of a post. A span of time leaves out its end, so the last
day that is asked for ends where the next day begins; the last day of the calendar, which has no next,
ends nothing, and no post comes after it. -/
namespace Postboard
open Text

theorem selectsAppend (a b : List Clause) (p : Post) :
    Plan.selects (a ++ b) p ↔ Plan.selects a p ∧ Plan.selects b p := by
  simp only [Plan.selects, List.all_append, Bool.and_eq_true]

theorem selectsCreated (op : Operator) (t : Instant) (p : Post) :
    Plan.selects [.only (.created op t)] p = op.holds (compare p.createdAt t) := by
  simp only [Plan.selects, Clause.matchesPost, Clause.comparisons, Comparison.matchesPost, Comparison.created,
    List.all_cons, List.all_nil, List.any_cons, List.any_nil, Bool.or_false, Bool.and_true]

namespace Instant

theorem gteHolds (a b : Instant) : Operator.gte.holds (compare a b) ↔ b.position ≤ a.position := by
  show (compare a.position b.position != .lt) = true ↔ _
  rw [bne_iff_ne, Ne, Int.compare_eq_lt, Int.not_lt]

theorem lteHolds (a b : Instant) : Operator.lte.holds (compare a b) ↔ a.position ≤ b.position := by
  show (compare a.position b.position != .gt) = true ↔ _
  rw [bne_iff_ne, Ne, Int.compare_eq_gt, Int.not_lt]

theorem ltHolds (a b : Instant) : Operator.lt.holds (compare a b) ↔ a.position < b.position := by
  show (compare a.position b.position == .lt) = true ↔ _
  rw [beq_iff_eq, Int.compare_eq_lt]

theorem midnightLe (d : Date) (t : Instant) : (midnight d).position ≤ t.position ↔ d.number ≤ t.date.number := by
  have inDay := t.inDay
  have inSecond := t.inSecond
  rw [midnightPosition, position]
  omega

end Instant

namespace Period

structure Contains (p : Period) (t : Instant) : Prop where
  started : ∀ start, p.start = some start → start.position ≤ t.position
  going : ∀ stop, p.stop = some stop → if p.closed then t.position ≤ stop.position else t.position < stop.position

theorem selectsIff (p : Period) (post : Post) : Plan.selects p.clauses post ↔ p.Contains post.createdAt := by
  have lower : Plan.selects (p.start.toList.map fun t => .only (.created .gte t)) post ↔
      ∀ start, p.start = some start → start.position ≤ post.createdAt.position := by
    cases p.start with
    | none => simp [Plan.selects]
    | some start => simp [selectsCreated, Instant.gteHolds]
  have upper : Plan.selects (p.stop.toList.map fun t => .only (.created (if p.closed then .lte else .lt) t)) post ↔
      ∀ stop, p.stop = some stop →
        if p.closed then post.createdAt.position ≤ stop.position else post.createdAt.position < stop.position := by
    cases p.stop with
    | none => simp [Plan.selects]
    | some stop => cases p.closed <;> simp [selectsCreated, Instant.lteHolds, Instant.ltHolds]
  rw [clauses, selectsAppend, lower, upper]
  exact ⟨fun h => ⟨h.1, h.2⟩, fun h => ⟨h.started, h.going⟩⟩

theorem startOfPickers (lower : List Char) (upper other : List Char) :
    (ofPickers lower upper).start = (ofPickers lower other).start := by
  unfold ofPickers
  cases Instant.read? upper <;> cases Instant.read? other <;> rfl

theorem stopOfPickers (lower other : List Char) (upper : List Char) :
    (ofPickers lower upper).stop = (ofPickers other upper).stop ∧
    (ofPickers lower upper).closed = (ofPickers other upper).closed := by
  unfold ofPickers
  cases Instant.read? upper <;> exact ⟨rfl, rfl⟩

def ofDays (first last : Option Date) : Period := { start := first.map .midnight, stop := last.bind dayAfter? }

theorem beforeDayAfter (d : Date) (t : Instant) :
    (∀ stop, dayAfter? d = some stop → t.position < stop.position) ↔ t.date.number ≤ d.number := by
  unfold dayAfter? Date.next?
  cases next : Date.ofNumber? (d.number + 1) with
  | none =>
    have low := d.notBefore
    have high := t.date.notAfter
    have last : ¬d.number + 1 < Calendar.daysBefore 262143 := by
      intro inside
      simp [Date.ofNumber?, inside, Int.le_add_one low] at next
    simp only [Option.map_none, reduceCtorEq, IsEmpty.forall_iff, implies_true, true_iff]
    omega
  | some n =>
    have number := Date.numberOfOfNumber next
    have starts := Instant.midnightLe n t
    simp only [Option.map_some, Option.some.injEq, forall_eq']
    omega

theorem ofDaysContains (first last : Option Date) (t : Instant) :
    (ofDays first last).Contains t ↔
      (∀ d, first = some d → d.number ≤ t.date.number) ∧ ∀ d, last = some d → t.date.number ≤ d.number := by
  have lower : (∀ start, first.map Instant.midnight = some start → start.position ≤ t.position) ↔
      ∀ d, first = some d → d.number ≤ t.date.number := by
    cases first with
    | none => simp
    | some d => simp [Instant.midnightLe]
  have upper : (∀ stop, last.bind dayAfter? = some stop → t.position < stop.position) ↔
      ∀ d, last = some d → t.date.number ≤ d.number := by
    cases last with
    | none => simp
    | some d => simpa using beforeDayAfter d t
  rw [← lower, ← upper]
  exact ⟨fun h => ⟨h.started, h.going⟩, fun h => ⟨h.1, h.2⟩⟩

end Period

inductive Sides (s : List Char) : List Char → List Char → Prop where
  | word {first last : List Char} (split : Split " to ".toList s [first, last]) : Sides s first last
  | dots {first last : List Char} (noWord : ¬" to ".toList <:+: s) (split : Split "..".toList s [first, last]) :
      Sides s first last

/-- The day is one that a term asks for. A side that names no day, or a term without sides that names
none, asks for nothing. -/
structure AsksFor (s : List Char) (day : Date) : Prop where
  notBefore : ∀ first last d, Sides s first last → Date.read? first = some d → d.number ≤ day.number
  notAfter : ∀ first last d, Sides s first last → Date.read? last = some d → day.number ≤ d.number
  exactly : (∀ first last, ¬Sides s first last) → ∀ d, Date.read? s = some d → day = d

theorem sidesIff {s first last : List Char} : Period.sides s = some (first, last) ↔ Sides s first last := by
  unfold Period.sides
  cases word : cut " to ".toList s with
  | none =>
    have noWord := cutNone.1 word
    rw [if_neg (by simp), halvesIff]
    constructor
    · exact .dots noWord
    · intro sides
      cases sides with
      | word split => exact absurd (splitInside split) noWord
      | dots _ split => exact split
  | some _ =>
    rw [Option.isSome_some, if_pos rfl, halvesIff]
    constructor
    · exact .word
    · intro sides
      cases sides with
      | word split => exact split
      | dots noWord =>
        rw [cutNone.2 noWord] at word
        contradiction

theorem sidesUnique {s first last a b : List Char} (sides : Sides s first last) (other : Sides s a b) :
    a = first ∧ b = last := by
  have same := (sidesIff.2 other).symm.trans (sidesIff.2 sides)
  simpa using same

theorem asksForSides {s first last : List Char} (sides : Sides s first last) (day : Date) :
    AsksFor s day ↔ (∀ d, Date.read? first = some d → d.number ≤ day.number) ∧
      ∀ d, Date.read? last = some d → day.number ≤ d.number := by
  constructor
  · intro asks
    exact ⟨fun d => asks.notBefore _ _ d sides, fun d => asks.notAfter _ _ d sides⟩
  · rintro ⟨lower, upper⟩
    refine ⟨?_, ?_, fun none => absurd sides (none _ _)⟩
    · intro a b d other read
      obtain ⟨rfl, rfl⟩ := sidesUnique sides other
      exact lower d read
    · intro a b d other read
      obtain ⟨rfl, rfl⟩ := sidesUnique sides other
      exact upper d read

theorem asksForSingle {s : List Char} (none : ∀ first last, ¬Sides s first last) (day : Date) :
    AsksFor s day ↔ ∀ d, Date.read? s = some d → day = d :=
  ⟨fun asks => asks.exactly none,
    fun same => ⟨fun a b _ sides => absurd sides (none a b), fun a b _ sides => absurd sides (none a b), fun _ => same⟩⟩

namespace Period

theorem boundedClauses (p : Period) :
    ((if p.start.isNone && p.stop.isNone then none else some p).map clauses).getD [] = p.clauses := by
  split
  · rename_i unbounded
    simp only [Bool.and_eq_true, Option.isNone_iff_eq_none] at unbounded
    simp [clauses, unbounded]
  · rfl

theorem readClauses (term : List Char) :
    ((read? term).map clauses).getD [] =
      match sides (spaced term) with
      | some (first, last) => (ofDays (Date.read? first) (Date.read? last)).clauses
      | none => (ofDays (Date.read? (spaced term)) (Date.read? (spaced term))).clauses := by
  unfold read?
  dsimp only
  cases sides (spaced term) with
  | some both => exact boundedClauses (ofDays (Date.read? both.1) (Date.read? both.2))
  | none =>
    cases Date.read? (spaced term) with
    | none => rfl
    | some d => rfl

end Period

theorem dateClauses (term : String) :
    SearchInput.clauses ⟨term, .date⟩ = ((Period.read? term.toList).map Period.clauses).getD [] := by
  have trimmed : Period.read? (trim term.toList) = Period.read? term.toList := by
    unfold Period.read?
    rw [spacedTrim]
  unfold SearchInput.clauses
  rw [← trimmed]
  cases trim term.toList with
  | nil => rfl
  | cons c r => rfl

theorem dateTermAsks (term : String) (p : Post) :
    Plan.selects (SearchInput.clauses ⟨term, .date⟩) p ↔ AsksFor (spaced term.toList) p.createdAt.date := by
  rw [dateClauses, Period.readClauses]
  generalize spaced term.toList = s
  cases both : Period.sides s with
  | some sides =>
    rw [Period.selectsIff, Period.ofDaysContains, asksForSides (sidesIff.1 both)]
  | none =>
    have none : ∀ first last, ¬Sides s first last := by
      intro first last sides
      have found := sidesIff.2 sides
      rw [both] at found
      contradiction
    rw [Period.selectsIff, Period.ofDaysContains, asksForSingle none]
    constructor
    · rintro ⟨lower, upper⟩ d read
      exact Date.ext (Int.le_antisymm (upper d read) (lower d read))
    · intro same
      exact ⟨fun d read => Int.le_of_eq (congrArg Date.number (same d read).symm),
        fun d read => Int.le_of_eq (congrArg Date.number (same d read))⟩

-- A leap second belongs to the day that it ends, and a timestamp stands for its day in universal time.
example : Plan.selects (SearchInput.clauses ⟨"2016-12-31 to 2017-01-01T01:00:00+02:00", .date⟩)
    { id := "1", text := "happy new year", username := "u",
      createdAt := ⟨⟨736694, by decide, by decide⟩, 86399, 1500000000, by decide, .inr (by decide)⟩ } := by
  decide +kernel

end Postboard
