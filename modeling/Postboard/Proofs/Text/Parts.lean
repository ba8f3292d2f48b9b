import Mathlib.Data.List.Induction
import Postboard.Proofs.Text.Wildcard

/-! A text cut at a mark that stands in it, the words of a text, and a text without its blanks. -/
namespace Postboard.Text

inductive Split (mark : List Char) : List Char → List (List Char) → Prop where
  | whole {s : List Char} (absent : ¬mark <:+: s) : Split mark s [s]
  | cut {s before after : List Char} {parts : List (List Char)} (here : s = before ++ mark ++ after)
      (first : ∀ b a, s = b ++ mark ++ a → before.length ≤ b.length)
      (rest : Split mark after parts) : Split mark s (before :: parts)

theorem cutNone {mark s : List Char} : cut mark s = none ↔ ¬mark <:+: s := by
  constructor
  · rintro nowhere ⟨before, after, rfl⟩
    obtain ⟨b, a, found, _⟩ := Wildcard.cutFirst before mark after
    rw [nowhere] at found
    contradiction
  · intro absent
    cases found : cut mark s with
    | none => rfl
    | some halves => exact absurd ⟨halves.1, halves.2, (cutAppend found).symm⟩ absent

theorem cutSome {mark s before after : List Char} :
    cut mark s = some (before, after) ↔
      s = before ++ mark ++ after ∧ ∀ b a, s = b ++ mark ++ a → before.length ≤ b.length := by
  constructor
  · intro found
    have here := cutAppend found
    refine ⟨here, ?_⟩
    rintro b a rfl
    obtain ⟨b', a', same, suffix⟩ := Wildcard.cutFirst b mark a
    rw [found] at same
    cases same
    have length := congrArg List.length here
    have shorter := suffix.length_le
    simp only [List.length_append] at length
    omega
  · rintro ⟨rfl, first⟩
    obtain ⟨b, a, found, suffix⟩ := Wildcard.cutFirst before mark after
    have here := cutAppend found
    have length := congrArg List.length here
    have shorter := suffix.length_le
    have least := first b a here
    simp only [List.length_append] at length
    obtain ⟨front, back⟩ := List.append_inj here (by simp only [List.length_append]; omega)
    rw [found, back, (List.append_inj front (by omega)).1]

theorem splitWhole {mark s part : List Char} : Split mark s [part] ↔ part = s ∧ ¬mark <:+: s := by
  constructor
  · intro split
    cases split with
    | whole absent => exact ⟨rfl, absent⟩
    | cut here first rest => cases rest
  · rintro ⟨rfl, absent⟩
    exact .whole absent

theorem halvesIff {mark s first last : List Char} : halves mark s = some (first, last) ↔ Split mark s [first, last] := by
  constructor
  · intro both
    unfold halves at both
    split at both
    · rename_i before after found
      split at both
      · rename_i once
        cases both
        obtain ⟨here, earliest⟩ := cutSome.1 found
        exact .cut here earliest (.whole (cutNone.1 (Option.isNone_iff_eq_none.1 once)))
      · contradiction
    · contradiction
  · intro split
    cases split with
    | cut here earliest rest =>
      obtain ⟨rfl, absent⟩ := splitWhole.1 rest
      simp only [halves, cutSome.2 ⟨here, earliest⟩, cutNone.2 absent, Option.isNone_none, ↓reduceIte]

theorem splitInside {mark s first last : List Char} (split : Split mark s [first, last]) : mark <:+: s := by
  cases split with
  | cut here => exact ⟨first, _, here.symm⟩

theorem prefixWithout {c : Char} {p s : List Char} (out : c ∉ p) (start : p <+: c :: s) : p = [] := by
  rcases List.prefix_cons_iff.1 start with rfl | ⟨t, rfl, -⟩
  · rfl
  · exact absurd List.mem_cons_self out

theorem infixAround {c : Char} {p a b : List Char} (out : c ∉ p) (inside : p <:+: a ++ c :: b) : p <:+: a ∨ p <:+: b := by
  rcases List.infix_append_iff.1 inside with before | after | ⟨left, right, rfl, stop, start⟩
  · exact .inl before
  · rcases List.infix_cons_iff.1 after with start | after
    · rw [prefixWithout out start]
      exact .inl List.nil_infix
    · exact .inr after
  · rw [prefixWithout (fun among => out (List.mem_append_right _ among)) start, List.append_nil]
    exact .inl stop.isInfix

/- The mark cannot begin in what stands before it, for its first character is not in there. -/
theorem splitAround {c : Char} {mark first last : List Char} (before : c ∉ first) (after : c ∉ last) :
    Split (c :: mark) (first ++ c :: mark ++ last) [first, last] := by
  have absent : ¬c :: mark <:+: last := fun inside => after (inside.subset List.mem_cons_self)
  refine .cut rfl ?_ (.whole absent)
  intro b a same
  rw [List.append_assoc, List.append_assoc] at same
  rcases List.append_eq_append_iff.1 same with ⟨more, rfl, -⟩ | ⟨more, rfl, rest⟩
  · rw [List.length_append]
    exact Nat.le_add_right _ _
  · cases more with
    | nil => exact Nat.le_of_eq (by rw [List.append_nil])
    | cons d more =>
      obtain ⟨rfl, -⟩ := List.cons.inj rest
      exact absurd (List.mem_append_right _ List.mem_cons_self) before

theorem wordsBlank {c : Char} (blank : isBlank c) (a b : List Char) : words (a ++ c :: b) = words a ++ words b := by
  unfold words pieces
  rw [List.splitOnP_append_cons a b blank, List.filter_append]

theorem wordsBlankStart {c : Char} (blank : isBlank c) (s : List Char) : words (c :: s) = words s :=
  wordsBlank blank [] s

theorem wordsBlankEnd {c : Char} (blank : isBlank c) (s : List Char) : words (s ++ [c]) = words s := by
  rw [wordsBlank blank]
  exact List.append_nil _

theorem wordsTrimStart (s : List Char) : words (trimStart s) = words s := by
  unfold trimStart
  induction s with
  | nil => rfl
  | cons c s ih =>
    rw [List.dropWhile_cons]
    split
    · rename_i blank
      rw [ih, wordsBlankStart blank]
    · rfl

theorem wordsTrimEnd (s : List Char) : words (trimEnd s) = words s := by
  induction s using List.reverseRecOn with
  | nil => rfl
  | append_singleton s c ih =>
    unfold trimEnd at ih ⊢
    rw [List.reverse_append, List.reverse_singleton, List.singleton_append, List.dropWhile_cons]
    split
    · rename_i blank
      rw [ih, wordsBlankEnd blank]
    · rw [List.reverse_cons, List.reverse_reverse]

theorem spacedTrim (s : List Char) : spaced (trim s) = spaced s := by
  rw [spaced, trim, wordsTrimEnd, wordsTrimStart, spaced]

theorem dropBlanksTrimStart (s : List Char) : dropBlanks (trimStart s) = dropBlanks s := by
  unfold trimStart dropBlanks
  induction s with
  | nil => rfl
  | cons c s ih =>
    rw [List.dropWhile_cons]
    split
    · rename_i blank
      rw [ih, List.filter_cons_of_neg (by simp [blank])]
    · rfl

theorem dropBlanksReverse (s : List Char) : dropBlanks s.reverse = (dropBlanks s).reverse := List.filter_reverse

theorem dropBlanksTrim (s : List Char) : dropBlanks (trim s) = dropBlanks s := by
  have ends : trim s = (trimStart (trimStart s).reverse).reverse := rfl
  rw [ends, dropBlanksReverse, dropBlanksTrimStart, dropBlanksReverse, List.reverse_reverse, dropBlanksTrimStart]

end Postboard.Text
