import Postboard.Proofs.Filter.Days
import Postboard.Proofs.Time.Spellings

/-! What the two date pickers mean for the time of a post, and that pickers which hold days ask for what a term
about dates asks for when its two sides are the pickers' texts around two dots. -/
namespace Postboard
open Text Time

structure Picked (side : List Char) (instant : Instant → Prop) (day : Date → Prop) : Prop where
  atInstant : ∀ t, Instant.read? side = some t → instant t
  onDay : Instant.read? side = none → ∀ d, Date.read? side = some d → day d

structure Between (lower upper : List Char) (t : Instant) : Prop where
  notBefore : Picked lower (fun start => start.position ≤ t.position) (fun d => d.number ≤ t.date.number)
  notAfter : Picked upper (fun stop => t.position ≤ stop.position) (fun d => t.date.number ≤ d.number)

def DayOrBlank (side : List Char) : Prop :=
  Blank side ∨ ∃ spelling ∈ Spelling.days, (spelling.read? (trim side)).isSome

theorem pickedInstant {side : List Char} {t : Instant} (read : Instant.read? side = some t) (instant : Instant → Prop)
    (day : Date → Prop) : Picked side instant day ↔ instant t := by
  constructor
  · intro picked
    exact picked.atInstant t read
  · intro holds
    refine ⟨?_, ?_⟩
    · intro t' read'
      rw [read] at read'
      cases read'
      exact holds
    · intro none
      rw [read] at none
      contradiction

theorem pickedDay {side : List Char} (none : Instant.read? side = none) (instant : Instant → Prop) (day : Date → Prop) :
    Picked side instant day ↔ ∀ d, Date.read? side = some d → day d := by
  constructor
  · intro picked
    exact picked.onDay none
  · intro holds
    refine ⟨?_, fun _ => holds⟩
    intro t read
    rw [none] at read
    contradiction

namespace Period

theorem ofPickersStarted (lower upper : List Char) (t : Instant) :
    (∀ start, (ofPickers lower upper).start = some start → start.position ≤ t.position) ↔
      Picked lower (fun start => start.position ≤ t.position) (fun d => d.number ≤ t.date.number) := by
  have blank : Instant.read? [] = none := rfl
  rw [startOfPickers lower upper []]
  cases read : Instant.read? lower with
  | some start => simp [ofPickers, read, blank, pickedInstant read]
  | none => simp [ofPickers, read, blank, pickedDay read, Instant.midnightLe]

theorem ofPickersGoing (lower upper : List Char) (t : Instant) :
    (∀ stop, (ofPickers lower upper).stop = some stop →
        if (ofPickers lower upper).closed then t.position ≤ stop.position else t.position < stop.position) ↔
      Picked upper (fun stop => t.position ≤ stop.position) (fun d => t.date.number ≤ d.number) := by
  cases read : Instant.read? upper with
  | some stop => simp [ofPickers, read, pickedInstant read]
  | none =>
    rw [pickedDay read]
    cases day : Date.read? upper with
    | none => simp [ofPickers, read, day]
    | some d => simpa [ofPickers, read, day] using beforeDayAfter d t

theorem ofPickersContains (lower upper : List Char) (t : Instant) :
    (ofPickers lower upper).Contains t ↔ Between lower upper t := by
  constructor
  · intro inside
    exact ⟨(ofPickersStarted lower upper t).1 inside.started, (ofPickersGoing lower upper t).1 inside.going⟩
  · intro between
    exact ⟨(ofPickersStarted lower upper t).2 between.notBefore, (ofPickersGoing lower upper t).2 between.notAfter⟩

theorem ofPickersTrim (lower upper : List Char) : ofPickers (trim lower) (trim upper) = ofPickers lower upper := by
  simp only [ofPickers, Instant.read?, Date.read?, trimTrim]

theorem ofPickersDays {lower upper : List Char} (noStart : Instant.read? lower = none) (noStop : Instant.read? upper = none) :
    ofPickers lower upper = ofDays (Date.read? lower) (Date.read? upper) := by
  simp only [ofPickers, noStart, noStop, ofDays]

end Period

theorem blankReads {side : List Char} (blank : Blank side) : Instant.read? side = none ∧ Date.read? side = none := by
  have nothing := trimAllBlank blank
  rw [Instant.read?, Date.read?, nothing]
  exact ⟨rfl, rfl⟩

namespace DayOrBlank

def sideMarks : List (List Char) := [] :: Spelling.days.flatMap Spelling.marks

theorem marksAmong {s : List Char} (side : DayOrBlank s) : Time.marks s ∈ sideMarks := by
  rcases side with blank | ⟨spelling, among, reads⟩
  · rw [marksUnmarked fun c inside => .inl (blank c inside)]
    exact List.mem_cons_self
  · obtain ⟨d, read⟩ := Option.isSome_iff_exists.1 reads
    rw [← marksTrim]
    exact List.mem_cons_of_mem _ (List.mem_flatMap.2 ⟨spelling, among, Spelling.readMarks read⟩)

theorem sideMarksPlain : ∀ m ∈ sideMarks, '.' ∉ m ∧ ¬"to".toList <:+: m := by
  decide +kernel

theorem sideUnpointed {s : List Char} (among : Time.marks s ∈ sideMarks) : '.' ∉ s := by
  intro inside
  have point : Time.marks ['.'] <:+: Time.marks s := marksInfix ((List.singleton_infix_iff _ _).2 inside)
  exact (sideMarksPlain _ among).1 (point.subset List.mem_cons_self)

theorem sideWordless {s : List Char} (among : Time.marks s ∈ sideMarks) : ¬" to ".toList <:+: s := by
  intro inside
  exact (sideMarksPlain _ among).2 (marksInfix inside)

theorem sidesAround {x y : List Char} (before : Time.marks x ∈ sideMarks) (after : Time.marks y ∈ sideMarks) :
    Sides (x ++ "..".toList ++ y) x y := by
  refine .dots ?_ (splitAround (sideUnpointed before) (sideUnpointed after))
  intro inside
  have point : '.' ∉ " to ".toList := by decide
  rw [List.append_assoc] at inside
  rcases infixAround point inside with first | more
  · exact sideWordless before first
  · rcases infixAround (a := []) point more with nothing | last
    · have long := nothing.length_le
      contradiction
    · exact sideWordless after last

theorem readsNoInstant {s : List Char} (side : DayOrBlank s) : Instant.read? s = none := by
  rcases side with blank | ⟨spelling, among, reads⟩
  · exact (blankReads blank).1
  · obtain ⟨d, read⟩ := Option.isSome_iff_exists.1 reads
    cases instant : Instant.read? s with
    | none => rfl
    | some t =>
      rw [Instant.read?] at instant
      have stamp : Spelling.timestamp.read? (trim s) = some t.date := by
        simp only [Spelling.read?, Spelling.layout?, instant, Option.map_some]
      have apart : Spelling.timestamp ∉ Spelling.days := by decide
      exact absurd (Spelling.readUnique read stamp ▸ among) apart

theorem readsSqueezed {s t : List Char} (side : DayOrBlank s) (same : trim t = squeeze (trim s)) :
    Date.read? t = Date.read? s := by
  rcases side with blank | ⟨spelling, among, reads⟩
  · have nothing := trimAllBlank blank
    rw [nothing] at same
    unfold Date.read?
    rw [same, nothing]
    rfl
  · obtain ⟨d, read⟩ := Option.isSome_iff_exists.1 reads
    have squeezed : spelling.read? (squeeze (trim s)) = some d := by
      fin_cases among <;> exact Spelling.readSqueezed rfl read
    rw [dateReadIff.2 ⟨spelling, read⟩, dateReadIff.2 ⟨spelling, same ▸ squeezed⟩]

/- The blanks that a term loses stand between the words of a side or at its outer end, and none of them matters. -/
theorem termSides {a b : List Char} (before : DayOrBlank a) (after : DayOrBlank b) :
    ∃ x y, Period.sides (spaced (a ++ "..".toList ++ b)) = some (x, y) ∧
      Date.read? x = Date.read? a ∧ Date.read? y = Date.read? b := by
  have point : isBlank '.' = false := by decide
  have whole : spaced (a ++ "..".toList ++ b) = squeeze (trimStart a) ++ "..".toList ++ squeeze (trimEnd b) := by
    have term : a ++ "..".toList ++ b = a ++ '.' :: '.' :: b := List.append_assoc _ _ _
    rw [spacedSqueeze, term, trim, trimStartAround point, trimEndAround point, ← List.nil_append ('.' :: b),
      trimEndAround point, squeezeAround point, List.nil_append, squeezeDark point, List.append_assoc]
    rfl
  have front : Time.marks (squeeze (trimStart a)) ∈ sideMarks := by
    rw [marksSqueeze, marksTrimStart]
    exact before.marksAmong
  have back : Time.marks (squeeze (trimEnd b)) ∈ sideMarks := by
    rw [marksSqueeze, ← marksTrim, trimTrimEnd, marksTrim]
    exact after.marksAmong
  refine ⟨_, _, whole ▸ sidesIff.2 (sidesAround front back), before.readsSqueezed ?_, after.readsSqueezed ?_⟩
  · rw [squeezeTrim, trimTrimStart]
  · rw [squeezeTrim, trimTrimEnd]

end DayOrBlank

theorem pickersAsk (r : DateRange) :
    (∀ p : Post, Plan.selects r.period.clauses p ↔
      Between (r.lower.getD "").toList (r.upper.getD "").toList p.createdAt) ∧
    (∀ side : List Char, Blank side → Instant.read? side = none ∧ Date.read? side = none) ∧
    (DayOrBlank (r.lower.getD "").toList → DayOrBlank (r.upper.getD "").toList →
      r.period.clauses = SearchInput.clauses ⟨r.lower.getD "" ++ ".." ++ r.upper.getD "", .date⟩) := by
  have period : r.period = .ofPickers (r.lower.getD "").toList (r.upper.getD "").toList := Period.ofPickersTrim _ _
  refine ⟨?_, fun _ => blankReads, ?_⟩
  · intro p
    rw [Period.selectsIff, period, Period.ofPickersContains]
  · intro before after
    obtain ⟨x, y, sides, first, last⟩ := DayOrBlank.termSides before after
    rw [period, Period.ofPickersDays before.readsNoInstant after.readsNoInstant, ← first, ← last, dateClauses,
      Period.readClauses, String.toList_append, String.toList_append, sides]

theorem sinceLeapDayAsks :
    DayOrBlank " Feb\t29, 2024".toList ∧ DayOrBlank [] ∧ Blank [] ∧
    (Instant.read? [] = none ∧ Date.read? [] = none) ∧
    (DateRange.period ⟨some " Feb\t29, 2024", none⟩).clauses = SearchInput.clauses ⟨" Feb\t29, 2024" ++ ".." ++ "", .date⟩ ∧
    (DateRange.period ⟨some " Feb\t29, 2024", none⟩).clauses =
      [.only (.created .gte (.midnight ⟨739310, by decide, by decide⟩))] := by
  have day : DayOrBlank " Feb\t29, 2024".toList := .inr ⟨.monthFirst, by decide, by decide +kernel⟩
  have blank : Blank [] := by decide
  exact ⟨day, .inl blank, blank, (pickersAsk {}).2.1 [] blank, (pickersAsk ⟨some " Feb\t29, 2024", none⟩).2.2 day (.inl blank),
    by decide +kernel⟩

end Postboard
