import Mathlib.Data.List.TakeWhile
import Postboard.Text.Blank

/-! Trimming. What is cut off are blanks at both ends, and they are all that there are: other blanks around a
text make no difference, and a text that was trimmed has none left. -/
namespace Postboard.Text

def Blank (s : List Char) : Prop := ∀ c ∈ s, isBlank c

instance (s : List Char) : Decidable (Blank s) := decidable_of_iff (s.all isBlank) List.all_eq_true

theorem trimStartBlank {before : List Char} (blank : Blank before) (s : List Char) :
    trimStart (before ++ s) = trimStart s :=
  List.dropWhile_append_of_pos blank

theorem trimEndReverse (s : List Char) : trimEnd s = (trimStart s.reverse).reverse := rfl

theorem trimEndBlank {after : List Char} (blank : Blank after) (s : List Char) : trimEnd (s ++ after) = trimEnd s := by
  have reversed : Blank after.reverse := fun c inside => blank c (List.mem_reverse.1 inside)
  rw [trimEndReverse, List.reverse_append, trimStartBlank reversed, trimEndReverse]

theorem trimBlank {before after : List Char} (front : Blank before) (back : Blank after) (s : List Char) :
    trim (before ++ s ++ after) = trim s := by
  unfold trim
  rw [List.append_assoc, trimStartBlank front, trimStart, List.dropWhile_append]
  split
  · rename_i empty
    have nothing : after.dropWhile isBlank = [] := List.dropWhile_eq_nil_iff.2 back
    rw [nothing, trimStart, List.isEmpty_iff.1 empty]
  · exact trimEndBlank back _

theorem trimAllBlank {s : List Char} (blank : Blank s) : trim s = [] := by
  have nothing : trimStart s = [] := List.dropWhile_eq_nil_iff.2 blank
  rw [trim, nothing]
  rfl

theorem trimStartSplit (s : List Char) : ∃ before, Blank before ∧ s = before ++ trimStart s :=
  ⟨s.takeWhile isBlank, fun _ inside => List.mem_takeWhile_imp inside, List.takeWhile_append_dropWhile.symm⟩

theorem trimEndSplit (s : List Char) : ∃ after, Blank after ∧ s = trimEnd s ++ after := by
  obtain ⟨before, blank, whole⟩ := trimStartSplit s.reverse
  refine ⟨before.reverse, fun c inside => blank c (List.mem_reverse.1 inside), ?_⟩
  rw [trimEndReverse, ← List.reverse_append, ← whole, List.reverse_reverse]

theorem trimSplit (s : List Char) : ∃ before after, Blank before ∧ Blank after ∧ s = before ++ trim s ++ after := by
  obtain ⟨before, front, start⟩ := trimStartSplit s
  obtain ⟨after, back, stop⟩ := trimEndSplit (trimStart s)
  exact ⟨before, after, front, back, by rw [List.append_assoc, trim, ← stop, ← start]⟩

theorem trimStartSelf {s : List Char} (start : ∀ c ∈ s.head?, isBlank c = false) : trimStart s = s := by
  cases s with
  | nil => rfl
  | cons c r => exact trimStartOfNotBlank (start c rfl)

theorem trimSelf {s : List Char} (start : ∀ c ∈ s.head?, isBlank c = false) (stop : ∀ c ∈ s.getLast?, isBlank c = false) :
    trim s = s := by
  rw [← List.head?_reverse] at stop
  rw [trim, trimStartSelf start, trimEndReverse, trimStartSelf stop, List.reverse_reverse]

theorem trimStartStartsDark (s : List Char) : ∀ c ∈ (trimStart s).head?, isBlank c = false := by
  intro c first
  have dark := List.head?_dropWhile_not isBlank s
  rw [trimStart] at first
  rw [Option.mem_def.1 first] at dark
  exact dark

theorem trimStartsDark (s : List Char) : ∀ c ∈ (trim s).head?, isBlank c = false := by
  obtain ⟨after, -, whole⟩ := trimEndSplit (trimStart s)
  intro c first
  apply trimStartStartsDark s c
  rw [whole, ← trim, List.head?_append, Option.mem_def.1 first]
  rfl

theorem trimEndsDark (s : List Char) : ∀ c ∈ (trim s).getLast?, isBlank c = false := by
  rw [trim, trimEndReverse, List.getLast?_reverse]
  exact trimStartStartsDark _

theorem trimTrim (s : List Char) : trim (trim s) = trim s :=
  trimSelf (trimStartsDark s) (trimEndsDark s)

theorem trimTrimStart (s : List Char) : trim (trimStart s) = trim s := by
  rw [trim, trimStartSelf (trimStartStartsDark s), trim]

theorem trimTrimEnd (s : List Char) : trim (trimEnd s) = trim s := by
  obtain ⟨after, back, whole⟩ := trimEndSplit s
  have front : Blank [] := List.forall_mem_nil _
  have cut : trim ([] ++ trimEnd s ++ after) = trim (trimEnd s) := trimBlank front back _
  rw [← cut, List.nil_append, ← whole]

theorem trimStartAround {c : Char} (dark : isBlank c = false) (a b : List Char) :
    trimStart (a ++ c :: b) = trimStart a ++ c :: b := by
  rw [trimStart, List.dropWhile_append, List.dropWhile_cons_of_neg (by simp [dark])]
  split
  · rename_i nothing
    rw [trimStart, List.isEmpty_iff.1 nothing, List.nil_append]
  · rfl

theorem trimEndAround {c : Char} (dark : isBlank c = false) (a b : List Char) :
    trimEnd (a ++ c :: b) = a ++ c :: trimEnd b := by
  rw [trimEndReverse, List.reverse_append, List.reverse_cons, List.append_assoc, List.singleton_append,
    trimStartAround dark, trimEndReverse]
  simp only [List.reverse_append, List.reverse_cons, List.reverse_reverse, List.append_assoc, List.singleton_append]

end Postboard.Text
