import Postboard.Proofs.Text.Wildcard

/-! The search for the pieces of a pattern, as it runs on the bytes of a text: each occurrence is an offset in
bytes, and the text is sliced behind it. No slice starts past the end or inside a character, and the first
occurrence of each piece leads to a match whenever the text has one. -/
namespace Postboard.Text.Wildcard

def utf8 (s : List Char) : List UInt8 := s.flatMap String.utf8EncodeChar

def findBytes (piece : List UInt8) : List UInt8 → Option Nat
  | [] => if piece.isEmpty then some 0 else none
  | b :: r => if piece.isPrefixOf (b :: r) then some 0 else (findBytes piece r).map (· + 1)

def isBoundary (bytes : List UInt8) (offset : Nat) : Bool :=
  match bytes[offset]? with
  | some b => decide b.IsUTF8FirstByte
  | none => offset == bytes.length

def sliceFrom? (bytes : List UInt8) (offset : Nat) : Option (List UInt8) :=
  if isBoundary bytes offset then some (bytes.drop offset) else none

def searchBytes? : List (List UInt8) → List UInt8 → Option Bool
  | [], _ => some true
  | piece :: rest, bytes =>
    match findBytes piece bytes with
    | some offset => (sliceFrom? bytes (offset + piece.length)).bind (searchBytes? rest)
    | none => some false

theorem utf8Cons (c : Char) (s : List Char) : utf8 (c :: s) = String.utf8EncodeChar c ++ utf8 s := rfl

theorem utf8Append (a b : List Char) : utf8 (a ++ b) = utf8 a ++ utf8 b := by
  simp only [utf8, List.flatMap_append]

/- The bytes of a character tell where they end, so no character is the start of another one. -/
theorem characterRead {c d : Char} {a b : List UInt8}
    (same : String.utf8EncodeChar c ++ a = String.utf8EncodeChar d ++ b) : c = d := by
  have bytes := congrArg List.toByteArray same
  rw [List.toByteArray_append, List.toByteArray_append] at bytes
  have first := @ByteArray.utf8DecodeChar?_utf8EncodeChar_append a.toByteArray c
  rw [bytes, ByteArray.utf8DecodeChar?_utf8EncodeChar_append] at first
  exact (Option.some.inj first).symm

theorem utf8Prefix {a b : List Char} : utf8 a <+: utf8 b ↔ a <+: b := by
  constructor
  · intro start
    induction a generalizing b with
    | nil => exact List.nil_prefix
    | cons c a ih =>
      obtain ⟨rest, whole⟩ := start
      cases b with
      | nil =>
        have none : String.utf8EncodeChar c = [] :=
          (List.append_eq_nil_iff.1 (List.append_eq_nil_iff.1 whole).1).1
        exact absurd none String.utf8EncodeChar_ne_nil
      | cons d b =>
        rw [utf8Cons, utf8Cons, List.append_assoc] at whole
        obtain rfl := characterRead whole
        exact List.cons_prefix_cons.2 ⟨rfl, ih ⟨rest, List.append_cancel_left whole⟩⟩
  · rintro ⟨rest, rfl⟩
    exact ⟨utf8 rest, (utf8Append a rest).symm⟩

theorem firstByte (c : Char) : ∃ b r, String.utf8EncodeChar c = b :: r ∧ b.IsUTF8FirstByte ∧
    ∀ x ∈ r, ¬x.IsUTF8FirstByte := by
  obtain ⟨b, r, bytes⟩ := List.exists_cons_of_ne_nil (@String.utf8EncodeChar_ne_nil c)
  have first : ∀ i (inside : i < (b :: r).length), (b :: r)[i].IsUTF8FirstByte ↔ i = 0 := by
    rw [← bytes]
    intro i inside
    exact UInt8.isUTF8FirstByte_getElem_utf8EncodeChar
  refine ⟨b, r, bytes, (first 0 (Nat.zero_lt_succ _)).2 rfl, ?_⟩
  intro x inside
  obtain ⟨i, bound, rfl⟩ := List.getElem_of_mem inside
  exact fun start => Nat.succ_ne_zero i ((first (i + 1) (Nat.succ_lt_succ bound)).1 start)

/- A piece begins with the first byte of a character, so it is not found among the others. -/
theorem findBytesSkip {b : UInt8} {piece skipped bytes : List UInt8} (first : b.IsUTF8FirstByte)
    (inner : ∀ x ∈ skipped, ¬x.IsUTF8FirstByte) :
    findBytes (b :: piece) (skipped ++ bytes) = (findBytes (b :: piece) bytes).map (· + skipped.length) := by
  induction skipped with
  | nil => simp
  | cons x skipped ih =>
    obtain ⟨notFirst, inner⟩ := List.forall_mem_cons.1 inner
    have apart : (b == x) = false := by
      refine beq_eq_false_iff_ne.2 ?_
      rintro rfl
      exact notFirst first
    rw [List.cons_append, findBytes, List.isPrefixOf, apart, Bool.false_and, if_neg Bool.false_ne_true,
      ih inner, Option.map_map]
    rfl

theorem findBytesCut {piece : List Char} (present : piece ≠ []) (s : List Char) :
    findBytes (utf8 piece) (utf8 s) = (cut piece s).map fun halves => (utf8 halves.1).length := by
  obtain ⟨p, ps, rfl⟩ := List.exists_cons_of_ne_nil present
  obtain ⟨b, r, bytes, first, -⟩ := firstByte p
  induction s with
  | nil => simp [utf8, findBytes, bytes, cut]
  | cons c s ih =>
    obtain ⟨x, skipped, encoded, -, inner⟩ := firstByte c
    have start : (utf8 (p :: ps)).isPrefixOf (x :: (skipped ++ utf8 s)) = (p :: ps).isPrefixOf (c :: s) := by
      rw [Bool.eq_iff_iff, List.isPrefixOf_iff_prefix, List.isPrefixOf_iff_prefix, ← utf8Prefix, utf8Cons c,
        encoded, List.cons_append]
    rw [utf8Cons c, encoded, List.cons_append, findBytes, start, cut]
    split
    · rfl
    · rw [utf8Cons p, bytes, List.cons_append, findBytesSkip first inner, ← List.cons_append, ← bytes,
        ← utf8Cons, ih, Option.map_map, Option.map_map, Option.map_map]
      congr 1
      funext halves
      simp only [Function.comp_apply, utf8Cons, encoded, List.length_append, List.length_cons]
      omega

theorem sliceBehind (a b : List Char) : sliceFrom? (utf8 a ++ utf8 b) (utf8 a).length = some (utf8 b) := by
  have boundary : isBoundary (utf8 a ++ utf8 b) (utf8 a).length := by
    unfold isBoundary
    rw [List.getElem?_append_right (Nat.le_refl _), Nat.sub_self]
    cases b with
    | nil => simp [utf8]
    | cons c b =>
      obtain ⟨x, r, encoded, first, -⟩ := firstByte c
      rw [utf8Cons, encoded, List.cons_append, List.getElem?_cons_zero]
      exact decide_eq_true first
  rw [sliceFrom?, if_pos boundary, List.drop_left]

theorem searchBytesInOrder {ps : List (List Char)} (present : ∀ p ∈ ps, p ≠ []) (s : List Char) :
    searchBytes? (ps.map utf8) (utf8 s) = some (inOrder ps s) := by
  induction ps generalizing s with
  | nil => rfl
  | cons piece ps ih =>
    obtain ⟨some, present⟩ := List.forall_mem_cons.1 present
    rw [List.map_cons, searchBytes?, findBytesCut some, inOrder]
    cases found : cut piece s with
    | none => rfl
    | some halves =>
      obtain ⟨before, after⟩ := halves
      have behind := sliceBehind (before ++ piece) after
      rw [← utf8Append, ← cutAppend found, utf8Append, List.length_append] at behind
      simp only [Option.map_some, behind, Option.bind_some]
      exact ih present after

/- Between n pieces and around them there are n + 1 stretches, of which the first is set apart. -/
theorem interleavedGaps {ps : List (List Char)} {t : List Char} :
    Interleaved ps t ↔
      ∃ first gaps, gaps.length = ps.length ∧ t = first ++ (List.zipWith (· ++ ·) ps gaps).flatten := by
  induction ps generalizing t with
  | nil =>
    constructor
    · intro _
      exact ⟨t, [], rfl, (List.append_nil t).symm⟩
    · intro _
      exact .nil t
  | cons piece ps ih =>
    constructor
    · intro pieces
      cases pieces with
      | cons gap piece later =>
        obtain ⟨first, gaps, length, rfl⟩ := ih.1 later
        exact ⟨gap, first :: gaps, by simp [length], by simp⟩
    · rintro ⟨gap, gaps, length, rfl⟩
      obtain ⟨first, gaps, rfl⟩ := List.exists_cons_of_length_eq_add_one length
      have later := ih.2 ⟨first, gaps, Nat.succ.inj length, rfl⟩
      simpa using Interleaved.cons gap piece later

theorem literalsSplit (p : List Char) : literals p = (p.splitOn '*').filter (· ≠ []) := by
  have same : (fun piece : List Char => !piece.isEmpty) = fun piece => decide (piece ≠ []) := by
    funext piece
    cases piece <;> rfl
  rw [literals, pieces, same]
  rfl

theorem literalsOfStars (n : Nat) : literals (List.replicate n '*') = [] := by
  induction n with
  | zero => rfl
  | succ n ih =>
    rw [List.replicate_succ, literals, pieces, List.splitOnP_cons_eq_if_modifyHead, if_pos (beq_self_eq_true '*')]
    exact ih

theorem lowerStars (n : Nat) (past : List Char) : lowerAfter past (List.replicate n '*') = List.replicate n '*' := by
  induction n generalizing past with
  | zero => rfl
  | succ n ih =>
    rw [List.replicate_succ, lowerAfter, ih]
    rfl

theorem searchMissesNoMatch (pattern text : List Char) :
    let pieces := ((lower pattern).splitOn '*').filter (· ≠ [])
    (occursIn pattern text ↔ ∃ first gaps, gaps.length = pieces.length ∧
      lower text = first ++ (List.zipWith (· ++ ·) pieces gaps).flatten) ∧
    (∀ n, occursIn (List.replicate n '*') text) ∧
    searchBytes? (pieces.map utf8) (utf8 (lower text)) = some (occursIn pattern text) := by
  have present : ∀ piece ∈ ((lower pattern).splitOn '*').filter (· ≠ []), piece ≠ [] :=
    fun piece inside => of_decide_eq_true (List.mem_filter.1 inside).2
  refine ⟨?_, ?_, ?_⟩
  · rw [occursIn, inOrderIff, literalsSplit, interleavedGaps]
  · intro n
    apply occursInOfNoLiterals
    rw [lower, lowerStars, literalsOfStars]
  · rw [searchBytesInOrder present, occursIn, literalsSplit]

end Postboard.Text.Wildcard
