import Postboard.Text.Wildcard

/-! What a pattern with stars means, said without a search: a star stands for any run of characters and
all else for itself. The search for the pieces between the stars finds a match whenever there is one. -/
namespace Postboard.Text.Wildcard

inductive Interleaved : List (List Char) → List Char → Prop where
  | nil (gap : List Char) : Interleaved [] gap
  | cons {rest : List (List Char)} {t : List Char} (gap piece : List Char) (later : Interleaved rest t) :
      Interleaved (piece :: rest) (gap ++ piece ++ t)

inductive Glob : List Char → List Char → Prop where
  | done : Glob [] []
  | star {p t : List Char} (run : List Char) (rest : Glob p t) : Glob ('*' :: p) (run ++ t)
  | char {c : Char} {p t : List Char} (plain : c ≠ '*') (rest : Glob p t) : Glob (c :: p) (c :: t)

/- The first occurrence of a piece leaves no less of the text than any other one. -/
theorem cutFirst (gap piece t : List Char) :
    ∃ before after, cut piece (gap ++ piece ++ t) = some (before, after) ∧ t <:+ after := by
  induction gap with
  | nil =>
    cases piece with
    | nil => cases t <;> exact ⟨[], _, rfl, List.suffix_rfl⟩
    | cons c piece =>
      have start : (c :: piece).isPrefixOf (c :: (piece ++ t)) :=
        List.isPrefixOf_iff_prefix.2 (List.prefix_append (c :: piece) t)
      refine ⟨[], t, ?_, List.suffix_rfl⟩
      simp [cut, start]
  | cons c gap ih =>
    obtain ⟨before, after, found, suffix⟩ := ih
    rw [List.cons_append, List.cons_append, cut]
    split
    · refine ⟨[], _, rfl, ?_⟩
      have whole : t <:+ c :: (gap ++ piece ++ t) := List.suffix_append (c :: (gap ++ piece)) t
      have left : (c :: (gap ++ piece ++ t)).drop piece.length <:+ c :: (gap ++ piece ++ t) :=
        List.drop_suffix _ _
      refine List.suffix_of_suffix_length_le whole left ?_
      simp only [List.length_drop, List.length_cons, List.length_append]
      omega
    · exact ⟨c :: before, after, by rw [found, Option.map_some], suffix⟩

theorem interleavedLonger {ps : List (List Char)} {t s : List Char} (later : Interleaved ps t) (suffix : t <:+ s) :
    Interleaved ps s := by
  obtain ⟨run, rfl⟩ := suffix
  cases later with
  | nil => exact .nil _
  | cons gap piece later =>
    have longer := Interleaved.cons (run ++ gap) piece later
    simpa only [List.append_assoc] using longer

theorem interleavedCons {piece t : List Char} {ps : List (List Char)} :
    Interleaved (piece :: ps) t ↔ ∃ s, Interleaved ps s ∧ piece ++ s <:+ t := by
  constructor
  · intro pieces
    cases pieces with
    | cons gap piece later => exact ⟨_, later, gap, (List.append_assoc gap piece _).symm⟩
  · rintro ⟨s, later, gap, rfl⟩
    rw [← List.append_assoc]
    exact .cons gap piece later

theorem inOrderIff (ps : List (List Char)) (s : List Char) : inOrder ps s ↔ Interleaved ps s := by
  induction ps generalizing s with
  | nil => exact ⟨fun _ => .nil s, fun _ => rfl⟩
  | cons piece ps ih =>
    constructor
    · intro found
      unfold inOrder at found
      split at found
      · rename_i before after first
        rw [cutAppend first]
        exact .cons before piece ((ih after).1 found)
      · contradiction
    · intro pieces
      obtain ⟨t, later, gap, rfl⟩ := interleavedCons.1 pieces
      obtain ⟨before, after, first, suffix⟩ := cutFirst gap piece t
      rw [← List.append_assoc, inOrder, first]
      exact (ih after).2 (interleavedLonger later suffix)

theorem globStar {p t : List Char} : Glob ('*' :: p) t ↔ ∃ s, Glob p s ∧ s <:+ t := by
  constructor
  · intro glob
    cases glob with
    | star run rest => exact ⟨_, rest, List.suffix_append _ _⟩
    | char plain => contradiction
  · rintro ⟨s, rest, run, rfl⟩
    exact .star run rest

theorem globChar {c : Char} (plain : c ≠ '*') {p t : List Char} :
    Glob (c :: p) t ↔ ∃ s, t = c :: s ∧ Glob p s := by
  constructor
  · intro glob
    cases glob with
    | star => contradiction
    | char _ rest => exact ⟨_, rfl, rest⟩
  · rintro ⟨s, rfl, rest⟩
    exact .char plain rest

theorem interleavedAfterStar {first t : List Char} {rest : List (List Char)} :
    Interleaved ((first :: rest).filter (!·.isEmpty)) t ↔
      ∃ s, Interleaved (rest.filter (!·.isEmpty)) s ∧ first ++ s <:+ t := by
  cases first with
  | nil =>
    constructor
    · intro pieces
      exact ⟨t, pieces, List.suffix_rfl⟩
    · rintro ⟨s, later, suffix⟩
      exact interleavedLonger later suffix
  | cons c first => exact interleavedCons

/- What stands before the first star of a pattern has to start the text, unlike the other pieces. -/
theorem globPieces (p : List Char) :
    ∃ first rest, p.splitOnP (· == '*') = first :: rest ∧ ∀ t, Glob (p ++ ['*']) t ↔
      ∃ s, t = first ++ s ∧ Interleaved (rest.filter (!·.isEmpty)) s := by
  induction p with
  | nil =>
    refine ⟨[], [], List.splitOnP_nil, fun t => ⟨fun _ => ⟨t, rfl, .nil t⟩, fun _ => ?_⟩⟩
    exact globStar.2 ⟨[], .done, List.nil_suffix⟩
  | cons c p ih =>
    obtain ⟨first, rest, parts, ih⟩ := ih
    rcases Decidable.em (c = '*') with rfl | plain
    · refine ⟨[], first :: rest, by simp [List.splitOnP_cons_eq_if_modifyHead, parts], fun t => ?_⟩
      simp only [List.cons_append, globStar, List.nil_append, exists_eq_left', interleavedAfterStar]
      constructor
      · rintro ⟨s, glob, suffix⟩
        obtain ⟨u, rfl, later⟩ := (ih s).1 glob
        exact ⟨u, later, suffix⟩
      · rintro ⟨u, later, suffix⟩
        exact ⟨first ++ u, (ih _).2 ⟨u, rfl, later⟩, suffix⟩
    · refine ⟨c :: first, rest, by simp [List.splitOnP_cons_eq_if_modifyHead, parts, plain], fun t => ?_⟩
      simp only [List.cons_append, globChar plain]
      constructor
      · rintro ⟨s, rfl, glob⟩
        obtain ⟨u, rfl, later⟩ := (ih s).1 glob
        exact ⟨u, rfl, later⟩
      · rintro ⟨u, rfl, later⟩
        exact ⟨first ++ u, rfl, (ih _).2 ⟨u, rfl, later⟩⟩

theorem occursInIff (pattern text : List Char) :
    occursIn pattern text ↔ Glob ('*' :: (lower pattern ++ ['*'])) (lower text) := by
  obtain ⟨first, rest, parts, glob⟩ := globPieces (lower pattern)
  rw [occursIn, inOrderIff, literals, pieces, parts, interleavedAfterStar, globStar]
  constructor
  · rintro ⟨s, later, suffix⟩
    exact ⟨first ++ s, (glob _).2 ⟨s, rfl, later⟩, suffix⟩
  · rintro ⟨s, start, suffix⟩
    obtain ⟨u, rfl, later⟩ := (glob s).1 start
    exact ⟨u, later, suffix⟩

end Postboard.Text.Wildcard
