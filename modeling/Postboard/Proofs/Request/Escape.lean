import Postboard.Request

/-! Backslashes and quotation marks in a request, undone: each of the two encodings of a term, as a
pattern and as a quoted operand, keeps different terms apart. -/
namespace Postboard.Request

def unescape : List Char → List Char
  | [] => []
  | '\\' :: c :: r => c :: unescape r
  | c :: r => c :: unescape r

theorem unescapePlain {c : Char} (plain : c ≠ '\\') (rest : List Char) : unescape (c :: rest) = c :: unescape rest := by
  rw [unescape.eq_def]
  split
  · contradiction
  · rename_i same
    exact absurd (List.cons.inj same).1 plain
  · rename_i same
    obtain ⟨rfl, rfl⟩ := List.cons.inj same
    rfl

/- Whichever characters are escaped, the backslash has to be one of them. -/
theorem unescapeEscaped {special : Char → Prop} [DecidablePred special] (backslash : special '\\') (s : List Char) :
    unescape (s.flatMap fun c => if special c then ['\\', c] else [c]) = s := by
  induction s with
  | nil => rfl
  | cons c s ih =>
    rw [List.flatMap_cons]
    split
    · exact congrArg (c :: ·) ih
    · rename_i ordinary
      have plain : c ≠ '\\' := by
        rintro rfl
        exact ordinary backslash
      rw [List.singleton_append, unescapePlain plain, ih]

theorem unescapePattern (term : List Char) : unescape (escapePattern term) = term :=
  unescapeEscaped (.inr (.inr rfl)) term

theorem escapePatternInjective {a b : List Char} (same : escapePattern a = escapePattern b) : a = b := by
  rw [← unescapePattern a, same, unescapePattern]

theorem unquoted {s : List Char} (free : ¬ s.any isReserved) : '"' ∉ s :=
  fun inside => free (List.any_eq_true.2 ⟨'"', inside, rfl⟩)

/- A text that needs no quotation marks has none, so it is not taken for a quoted one. -/
theorem quoteInjective {a b : List Char} (same : quote a = quote b) : a = b := by
  unfold quote at same
  split at same
  · split at same
    · have inner := List.append_cancel_right (List.cons.inj same).2
      have undone := congrArg unescape inner
      rwa [unescapeEscaped (.inr rfl), unescapeEscaped (.inr rfl)] at undone
    · rename_i free
      exact absurd (same ▸ List.mem_cons_self) (unquoted free)
  · rename_i free
    split at same
    · exact absurd (same.symm ▸ List.mem_cons_self) (unquoted free)
    · exact same

end Postboard.Request
