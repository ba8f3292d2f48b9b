import Postboard.Text.LowerCase

/-! Lower-casing a stretch of a text. The stretch comes out as it would alone, but for its capital sigmas: whether
one ends a word is for the characters around it to say, and those may lie outside the stretch. -/
namespace Postboard.Text

/-- A sigma that stands between these two parts of a text ends a word. The part before it is reversed. -/
def endsWord (past rest : List Char) : Bool := casedFirst past && !casedFirst rest

def smallSigma (final : Bool) : Char := if final then 'ς' else 'σ'

def lowerWithin (past : List Char) (stretch after : List Char) : List Char :=
  match stretch with
  | [] => []
  | c :: r =>
    (if c = 'Σ' then [smallSigma (endsWord past (r ++ after))] else lowerChar c) ++ lowerWithin (c :: past) r after

def SigmasKept (before stretch after : List Char) : Prop :=
  ∀ past rest, stretch = past ++ 'Σ' :: rest →
    endsWord (past.reverse ++ before.reverse) (rest ++ after) = endsWord past.reverse rest

theorem lowerAfterAppend (past a b : List Char) :
    lowerAfter past (a ++ b) = lowerWithin past a b ++ lowerAfter (a.reverse ++ past) b := by
  induction a generalizing past with
  | nil => rfl
  | cons c a ih =>
    rw [List.cons_append, lowerAfter, ih, lowerWithin, List.reverse_cons, List.append_assoc, List.append_assoc]
    rfl

theorem lowerWithinAlone (past a : List Char) : lowerWithin past a [] = lowerAfter past a := by
  have whole := lowerAfterAppend past a []
  rw [List.append_nil, lowerAfter, List.append_nil] at whole
  exact whole.symm

theorem lowerStretch (before stretch after : List Char) :
    lower (before ++ stretch ++ after) =
      lowerWithin [] before (stretch ++ after) ++ lowerWithin before.reverse stretch after ++
        lowerAfter (stretch.reverse ++ before.reverse) after := by
  rw [lower, List.append_assoc, lowerAfterAppend, lowerAfterAppend, List.append_nil, List.append_assoc]

theorem smallSigmaInjective {a b : Bool} : smallSigma a = smallSigma b ↔ a = b := by
  cases a <;> cases b <;> decide

theorem splitsOfCons {mark c : Char} {r : List Char} {holds : List Char → List Char → Prop} :
    (∀ u v, c :: r = u ++ mark :: v → holds u v) ↔
      (c = mark → holds [] r) ∧ ∀ u v, r = u ++ mark :: v → holds (c :: u) v := by
  constructor
  · intro all
    refine ⟨?_, fun u v split => all (c :: u) v (congrArg (c :: ·) split)⟩
    rintro rfl
    exact all [] r rfl
  · rintro ⟨head, further⟩ u v split
    rcases List.cons_eq_append_iff.1 split with ⟨rfl, same⟩ | ⟨u, rfl, tail⟩
    · obtain ⟨rfl, rfl⟩ := List.cons.inj same
      exact head rfl
    · exact further u v tail

/- Surroundings count only through the capital sigmas, and each of them shows in the result. -/
theorem lowerWithinSame {p q s a b : List Char} :
    lowerWithin p s a = lowerWithin q s b ↔
      ∀ u v, s = u ++ 'Σ' :: v → endsWord (u.reverse ++ p) (v ++ a) = endsWord (u.reverse ++ q) (v ++ b) := by
  induction s generalizing p q with
  | nil => simp [lowerWithin]
  | cons c r ih =>
    rw [splitsOfCons, lowerWithin, lowerWithin]
    simp only [List.reverse_cons, List.append_assoc, List.singleton_append, ← ih]
    by_cases sigma : c = 'Σ'
    · simp [sigma, smallSigmaInjective]
    · simp [sigma]

theorem loweredIffKept {before stretch after : List Char} :
    lowerWithin before.reverse stretch after = lower stretch ↔ SigmasKept before stretch after := by
  rw [lower, ← lowerWithinAlone, lowerWithinSame]
  simp only [SigmasKept, List.append_nil]

theorem keptWithoutSigma {stretch : List Char} (none : 'Σ' ∉ stretch) (before after : List Char) :
    SigmasKept before stretch after := by
  rintro past rest rfl
  exact absurd (List.mem_append_right past List.mem_cons_self) none

theorem casedFirstCons (c : Char) (s : List Char) :
    casedFirst (c :: s) =
      if LowerCase.covers LowerCase.ignorableRanges c.toNat then casedFirst s
      else LowerCase.covers LowerCase.casedRanges c.toNat := by
  by_cases ignorable : LowerCase.covers LowerCase.ignorableRanges c.toNat
  · simp [casedFirst, ignorable]
  · simp [casedFirst, ignorable]

theorem casedFirstAppend {s outer : List Char} (uncased : casedFirst outer = false) :
    casedFirst (s ++ outer) = casedFirst s := by
  induction s with
  | nil => exact uncased
  | cons c s ih => rw [List.cons_append, casedFirstCons, casedFirstCons, ih]

theorem keptApart {before after : List Char} (start : casedFirst before.reverse = false)
    (stop : casedFirst after = false) (stretch : List Char) : SigmasKept before stretch after := by
  intro past rest _
  rw [endsWord, endsWord, casedFirstAppend start, casedFirstAppend stop]

end Postboard.Text
