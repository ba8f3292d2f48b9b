import Postboard.Proofs.Text.Parts
import Postboard.Proofs.Text.Trim

/-! A text with every run of blanks made one space. The words of a text joined by spaces are the trimmed text,
squeezed; and squeezing goes through whatever stands between the blanks. -/
namespace Postboard.Text

def startsBlank (s : List Char) : Bool := s.head?.any isBlank

/-- Of a run of blanks the last is kept, as a space. -/
def squeeze : List Char → List Char
  | [] => []
  | c :: r => if isBlank c then (if startsBlank r then squeeze r else ' ' :: squeeze r) else c :: squeeze r

theorem squeezeDark {c : Char} (dark : isBlank c = false) (r : List Char) : squeeze (c :: r) = c :: squeeze r := by
  simp [squeeze, dark]

theorem squeezeRun {c : Char} (blank : isBlank c) {r : List Char} (run : startsBlank r) :
    squeeze (c :: r) = squeeze r := by
  simp [squeeze, blank, run]

theorem squeezeLast {c : Char} (blank : isBlank c) {r : List Char} (last : startsBlank r = false) :
    squeeze (c :: r) = ' ' :: squeeze r := by
  simp [squeeze, blank, last]

theorem squeezePrefix {p : List Char} (dark : ∀ c ∈ p, isBlank c = false) (r : List Char) :
    squeeze (p ++ r) = p ++ squeeze r := by
  induction p with
  | nil => rfl
  | cons c p ih =>
    rw [List.forall_mem_cons] at dark
    rw [List.cons_append, squeezeDark dark.1, ih dark.2, List.cons_append]

theorem squeezeAround {c : Char} (dark : isBlank c = false) (a b : List Char) :
    squeeze (a ++ c :: b) = squeeze a ++ c :: squeeze b := by
  induction a with
  | nil => exact squeezeDark dark b
  | cons d a ih =>
    have same : startsBlank (a ++ c :: b) = startsBlank a := by
      cases a with
      | nil => simp [startsBlank, dark]
      | cons e a => rfl
    rw [List.cons_append, squeeze, squeeze, same, ih]
    split
    · split <;> rfl
    · rfl

theorem squeezeTrimStart (s : List Char) : trimStart (squeeze s) = squeeze (trimStart s) := by
  induction s with
  | nil => rfl
  | cons c r ih =>
    cases blank : isBlank c with
    | false => rw [squeezeDark blank, trimStartOfNotBlank blank, trimStartOfNotBlank blank, squeezeDark blank]
    | true =>
      have dropped : trimStart (c :: r) = trimStart r := List.dropWhile_cons_of_pos blank
      rw [dropped, ← ih]
      cases run : startsBlank r with
      | true => rw [squeezeRun blank run]
      | false =>
        rw [squeezeLast blank run]
        exact List.dropWhile_cons_of_pos rfl

theorem squeezeNil {s : List Char} : squeeze s = [] ↔ s = [] := by
  constructor
  · intro nothing
    induction s with
    | nil => rfl
    | cons c r ih =>
      cases blank : isBlank c with
      | false =>
        rw [squeezeDark blank] at nothing
        contradiction
      | true =>
        cases run : startsBlank r with
        | true =>
          rw [squeezeRun blank run] at nothing
          rw [ih nothing] at run
          contradiction
        | false =>
          rw [squeezeLast blank run] at nothing
          contradiction
  · rintro rfl
    rfl

theorem squeezeLength (s : List Char) : (squeeze s).length ≤ s.length := by
  induction s with
  | nil => exact Nat.le_refl _
  | cons c r ih =>
    unfold squeeze
    split
    · split
      · exact Nat.le_succ_of_le ih
      · exact Nat.succ_le_succ ih
    · exact Nat.succ_le_succ ih

theorem trimEndCons (c : Char) (r : List Char) :
    trimEnd (c :: r) = if trimEnd r = [] then (if isBlank c then [] else [c]) else c :: trimEnd r := by
  simp only [trimEndReverse, trimStart, List.reverse_cons, List.dropWhile_append, List.reverse_eq_nil_iff,
    List.isEmpty_iff]
  split
  · rw [List.dropWhile_cons]
    split <;> rfl
  · simp

theorem startsBlankTrimEnd {s : List Char} (some : trimEnd s ≠ []) : startsBlank (trimEnd s) = startsBlank s := by
  obtain ⟨after, -, whole⟩ := trimEndSplit s
  obtain ⟨c, r, same⟩ := List.exists_cons_of_ne_nil some
  rw [same] at whole ⊢
  rw [whole]
  rfl

theorem squeezeTrimEnd (s : List Char) : trimEnd (squeeze s) = squeeze (trimEnd s) := by
  induction s with
  | nil => rfl
  | cons c r ih =>
    rw [trimEndCons]
    cases blank : isBlank c with
    | false =>
      rw [squeezeDark blank, trimEndCons, ih]
      by_cases nothing : trimEnd r = []
      · simp [nothing, blank, squeeze]
      · simp [nothing, blank, squeezeNil, squeeze]
    | true =>
      cases run : startsBlank r with
      | true =>
        rw [squeezeRun blank run, ih]
        by_cases nothing : trimEnd r = []
        · simp [nothing]
        · rw [if_neg nothing, squeezeRun blank (startsBlankTrimEnd nothing ▸ run)]
      | false =>
        rw [squeezeLast blank run, trimEndCons, ih]
        by_cases nothing : trimEnd r = []
        · simp [nothing, squeeze, isBlank]
        · rw [if_neg nothing, squeezeLast blank (startsBlankTrimEnd nothing ▸ run), if_neg (mt squeezeNil.1 nothing)]

theorem squeezeTrim (s : List Char) : trim (squeeze s) = squeeze (trim s) := by
  rw [trim, squeezeTrimStart, squeezeTrimEnd, trim]

theorem startsBlankParts {s first : List Char} {rest : List (List Char)} (parts : s.splitOnP isBlank = first :: rest) :
    first = [] ↔ s = [] ∨ startsBlank s := by
  cases s with
  | nil => simp_all
  | cons c r =>
    rw [List.splitOnP_cons_eq_if_modifyHead] at parts
    obtain ⟨h, t, split⟩ := List.exists_cons_of_ne_nil (List.splitOnP_ne_nil isBlank r)
    cases blank : isBlank c with
    | true => simp_all [startsBlank]
    | false =>
      simp only [blank, split, Bool.false_eq_true, ↓reduceIte, List.modifyHead_cons, List.cons.injEq] at parts
      simp [startsBlank, blank, ← parts.1]

theorem intercalateHead (mark : List Char) (c : Char) (first : List Char) (rest : List (List Char)) :
    mark.intercalate ((c :: first) :: rest) = c :: mark.intercalate (first :: rest) := by
  cases rest with
  | nil => rw [List.intercalate_singleton, List.intercalate_singleton]
  | cons next rest => rw [List.intercalate_cons_cons, List.intercalate_cons_cons, List.cons_append, List.cons_append]

/- The first part counts also where it is empty: that is how a run of blanks at the start is told. -/
theorem squeezeParts {s : List Char} (stop : ∀ c ∈ s.getLast?, isBlank c = false) {first : List Char} {rest : List (List Char)}
    (parts : s.splitOnP isBlank = first :: rest) : squeeze s = [' '].intercalate (first :: rest.filter (!·.isEmpty)) := by
  induction s generalizing first rest with
  | nil =>
    cases parts
    rfl
  | cons c r ih =>
    obtain ⟨h, t, split⟩ := List.exists_cons_of_ne_nil (List.splitOnP_ne_nil isBlank r)
    have stopRest : ∀ d ∈ r.getLast?, isBlank d = false := by
      intro d last
      apply stop d
      rw [List.getLast?_cons, Option.mem_def.1 last]
      rfl
    rw [List.splitOnP_cons_eq_if_modifyHead, split] at parts
    cases blank : isBlank c with
    | false =>
      rw [blank] at parts
      cases parts
      rw [squeezeDark blank, ih stopRest split, intercalateHead]
    | true =>
      rw [blank] at parts
      cases parts
      have more : r ≠ [] := by
        rintro rfl
        rw [stop c rfl] at blank
        contradiction
      by_cases empty : h = []
      · have run := ((startsBlankParts split).1 empty).resolve_left more
        rw [squeezeRun blank run, ih stopRest split, empty, List.filter_cons_of_neg (by simp)]
      · have last : startsBlank r = false := by
          rw [← Bool.not_eq_true]
          exact fun run => empty ((startsBlankParts split).2 (.inr run))
        rw [squeezeLast blank last, ih stopRest split, List.filter_cons_of_pos (by simpa using empty),
          List.intercalate_cons_cons]
        rfl

theorem spacedSqueeze (s : List Char) : spaced s = squeeze (trim s) := by
  have stop := trimEndsDark s
  have start := trimStartsDark s
  rw [← spacedTrim]
  cases whole : trim s with
  | nil => rfl
  | cons c r =>
    rw [whole] at start stop
    obtain ⟨first, rest, parts⟩ := List.exists_cons_of_ne_nil (List.splitOnP_ne_nil isBlank (c :: r))
    have some : first ≠ [] := by
      rw [ne_eq, startsBlankParts parts]
      simp [startsBlank, start c rfl]
    rw [squeezeParts stop parts, spaced, words, pieces, parts, List.filter_cons_of_pos (by simpa using some)]

end Postboard.Text
