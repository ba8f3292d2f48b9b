import Postboard.Text.Blank

/-! Cutting a text: at every separating character, or at the first occurrence of a piece. -/
namespace Postboard.Text

def pieces (p : Char → Bool) (s : List Char) : List (List Char) :=
  (s.splitOnP p).filter (!·.isEmpty)

def words (s : List Char) : List (List Char) := pieces isBlank s

def spaced (s : List Char) : List Char := [' '].intercalate (words s)

def cut (piece : List Char) : List Char → Option (List Char × List Char)
  | [] => if piece.isEmpty then some ([], []) else none
  | c :: r =>
    if piece.isPrefixOf (c :: r) then some ([], (c :: r).drop piece.length)
    else (cut piece r).map fun (before, after) => (c :: before, after)

def halves (separator s : List Char) : Option (List Char × List Char) :=
  match cut separator s with
  | some (before, after) => if (cut separator after).isNone then some (before, after) else none
  | none => none

theorem cutAppend {piece s before after : List Char} (h : cut piece s = some (before, after)) :
    s = before ++ piece ++ after := by
  induction s generalizing before after with
  | nil =>
    unfold cut at h
    split at h <;> simp_all
  | cons c r ih =>
    unfold cut at h
    split at h
    · rename_i hp
      obtain ⟨t, ht⟩ := List.isPrefixOf_iff_prefix.1 hp
      simp only [Option.some.injEq, Prod.mk.injEq] at h
      obtain ⟨rfl, rfl⟩ := h
      rw [← ht]
      simp
    · obtain ⟨⟨b, a⟩, hc, he⟩ := Option.map_eq_some_iff.1 h
      simp only [Prod.mk.injEq] at he
      obtain ⟨rfl, rfl⟩ := he
      rw [ih hc]
      simp

end Postboard.Text
