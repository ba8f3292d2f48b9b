import Postboard.Proofs.Text.Wildcard
import Postboard.Request
import Postboard.Store

/-! What the remote table makes of the pattern of a request, by its own rules, and that the store in memory
means the same. Both sides are taken to lower-case alike. -/
namespace Postboard.Request
open Text Wildcard

/-- The rules of the remote table: a percent sign matches any run of characters, an underscore any one,
a backslash takes the next character as it is, and every other character is itself. -/
inductive Like : List Char → List Char → Prop where
  | done : Like [] []
  | run {p t : List Char} (run : List Char) (rest : Like p t) : Like ('%' :: p) (run ++ t)
  | one {p t : List Char} (c : Char) (rest : Like p t) : Like ('_' :: p) (c :: t)
  | escaped {p t : List Char} (c : Char) (rest : Like p t) : Like ('\\' :: c :: p) (c :: t)
  | plain {c : Char} {p t : List Char} (run : c ≠ '%') (one : c ≠ '_') (escape : c ≠ '\\') (rest : Like p t) :
      Like (c :: p) (c :: t)

def starsRead (pattern : List Char) : List Char := pattern.map fun c => if c = '*' then '%' else c

def RemoteMatches (pattern text : List Char) : Prop := Like (starsRead pattern) text

theorem likeRun {p t : List Char} : Like ('%' :: p) t ↔ ∃ s, Like p s ∧ s <:+ t := by
  constructor
  · intro like
    cases like with
    | run run rest => exact ⟨_, rest, List.suffix_append _ _⟩
    | plain run => contradiction
  · rintro ⟨s, rest, run, rfl⟩
    exact .run run rest

theorem likeEscaped {c : Char} {p t : List Char} : Like ('\\' :: c :: p) t ↔ ∃ s, t = c :: s ∧ Like p s := by
  constructor
  · intro like
    cases like with
    | escaped c rest => exact ⟨_, rfl, rest⟩
    | plain run one escape => contradiction
  · rintro ⟨s, rfl, rest⟩
    exact .escaped c rest

theorem likePlain {c : Char} (run : c ≠ '%') (one : c ≠ '_') (escape : c ≠ '\\') {p t : List Char} :
    Like (c :: p) t ↔ ∃ s, t = c :: s ∧ Like p s := by
  constructor
  · intro like
    cases like with
    | plain _ _ _ rest => exact ⟨_, rfl, rest⟩
    | _ => contradiction
  · rintro ⟨s, rfl, rest⟩
    exact .plain run one escape rest

/- Escaping leaves the star as the only character of the term that is not itself. -/
theorem escapedMatches (p t : List Char) : RemoteMatches (escapePattern p) t ↔ Glob p t := by
  induction p generalizing t with
  | nil =>
    constructor
    · rintro ⟨⟩
      exact .done
    · rintro ⟨⟩
      exact .done
  | cons c p ih =>
    unfold RemoteMatches escapePattern starsRead at ih ⊢
    rw [List.flatMap_cons, List.map_append]
    rcases Decidable.em (c = '*') with rfl | plain
    · simp [likeRun, globStar, ih]
    · by_cases special : c = '%' ∨ c = '_' ∨ c = '\\'
      · simp [special, plain, likeEscaped, globChar plain, ih]
      · have ordinary : c ≠ '%' ∧ c ≠ '_' ∧ c ≠ '\\' := by simpa using special
        simp [special, plain, likePlain ordinary.1 ordinary.2.1 ordinary.2.2, globChar plain, ih]

theorem starredPattern (p : List Char) : '*' :: (escapePattern p ++ ['*']) = escapePattern ('*' :: (p ++ ['*'])) := by
  simp [escapePattern]

theorem patternMeansTheSame (field : Field) (term text : String) :
    operandText (.contains field (String.ofList (lower term.toList))) =
      '*' :: (escapePattern (lower term.toList) ++ ['*']) ∧
    (Operator.like.holdsText text term ↔
      RemoteMatches ('*' :: (escapePattern (lower term.toList) ++ ['*'])) (lower text.toList)) ∧
    (Operator.like.holdsText text term ↔ Glob ('*' :: (lower term.toList ++ ['*'])) (lower text.toList)) := by
  have glob : Operator.like.holdsText text term ↔ Glob ('*' :: (lower term.toList ++ ['*'])) (lower text.toList) :=
    occursInIff term.toList text.toList
  refine ⟨?_, ?_, glob⟩
  · simp [operandText, Comparison.contains]
  · rw [glob, starredPattern, escapedMatches]

end Postboard.Request
