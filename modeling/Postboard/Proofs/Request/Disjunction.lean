import Postboard.Proofs.Request.Query

/-! The one parameter of a request that holds two conditions, read back. Whatever characters a value has, it
stays inside its own condition: an operand that could be taken for more stands in quotation marks. -/
namespace Postboard.Request

structure Condition where
  column : List Char
  operator : List Char
  operand : List Char
  deriving DecidableEq

def Condition.ofComparison (c : Comparison) : Condition :=
  ⟨c.field.column.toList, (operatorWord c.operator).toList, operandText c⟩

def readMark? (mark : Char) : List Char → Option (List Char)
  | c :: rest => if c = mark then some rest else none
  | [] => none

def readName? (s : List Char) : Option (List Char × List Char) :=
  (readMark? '.' (s.dropWhile (· != '.'))).map (s.takeWhile (· != '.'), ·)

def readQuoted? : List Char → Option (List Char × List Char)
  | [] => none
  | '"' :: rest => some ([], rest)
  | '\\' :: c :: r => (readQuoted? r).map fun (s, rest) => (c :: s, rest)
  | c :: r => (readQuoted? r).map fun (s, rest) => (c :: s, rest)

def endsOperand (c : Char) : Bool := c == ',' || c == ')'

def readOperand? (s : List Char) : Option (List Char × List Char) :=
  if s.head? = some '"' then readQuoted? s.tail
  else some (s.takeWhile (!endsOperand ·), s.dropWhile (!endsOperand ·))

def readCondition? (s : List Char) : Option (Condition × List Char) := do
  let (column, s) ← readName? s
  let (operator, s) ← readName? s
  let (operand, s) ← readOperand? s
  return (⟨column, operator, operand⟩, s)

def readDisjunction? (s : List Char) : Option (Condition × Condition) := do
  let s ← readMark? '(' s
  let (left, s) ← readCondition? s
  let s ← readMark? ',' s
  let (right, s) ← readCondition? s
  let s ← readMark? ')' s
  if s.isEmpty then some (left, right) else none

theorem readNameWritten {name : List Char} (apart : '.' ∉ name) (rest : List Char) :
    readName? (name ++ '.' :: rest) = some (name, rest) := by
  have before : ∀ c ∈ name, (c != '.') = true := by
    intro c inside
    refine bne_iff_ne.2 ?_
    rintro rfl
    exact apart inside
  rw [readName?, List.dropWhile_append_of_pos before, List.takeWhile_append_of_pos before]
  simp [readMark?]

theorem readQuotedPlain {c : Char} (mark : c ≠ '"') (escape : c ≠ '\\') (r : List Char) :
    readQuoted? (c :: r) = (readQuoted? r).map fun found => (c :: found.1, found.2) := by
  rw [readQuoted?.eq_def]
  split
  · contradiction
  · rename_i same
    exact absurd (List.cons.inj same).1 mark
  · rename_i same
    exact absurd (List.cons.inj same).1 escape
  · rename_i same
    obtain ⟨rfl, rfl⟩ := List.cons.inj same
    rfl

theorem readQuotedWritten (s rest : List Char) :
    readQuoted? (s.flatMap (fun c => if c = '"' ∨ c = '\\' then ['\\', c] else [c]) ++ '"' :: rest) = some (s, rest) := by
  induction s with
  | nil => rfl
  | cons c s ih =>
    rw [List.flatMap_cons, List.append_assoc]
    split
    · simp only [List.cons_append, List.nil_append, readQuoted?, ih, Option.map_some]
    · rename_i plain
      rw [not_or] at plain
      rw [List.singleton_append, readQuotedPlain plain.1 plain.2, ih, Option.map_some]

theorem endsReserved {c : Char} (ends : endsOperand c) : isReserved c := by
  simp only [endsOperand, Bool.or_eq_true, beq_iff_eq] at ends
  rcases ends with rfl | rfl <;> decide

/- An operand without quotation marks holds none of the characters at which it could end too soon. -/
theorem readOperandWritten {mark : Char} (stop : endsOperand mark) (s rest : List Char) :
    readOperand? (quote s ++ mark :: rest) = some (s, mark :: rest) := by
  unfold quote
  split
  · rw [List.cons_append, List.append_assoc]
    exact readQuotedWritten s (mark :: rest)
  · rename_i free
    have unmarked : (s ++ mark :: rest).head? ≠ some '"' := by
      cases s with
      | nil =>
        intro same
        rw [show mark = '"' from Option.some.inj same] at stop
        contradiction
      | cons c s =>
        intro same
        exact unquoted free (Option.some.inj same ▸ List.mem_cons_self)
    have inside : ∀ c ∈ s, (!endsOperand c) = true := by
      intro c member
      rw [Bool.not_eq_true', Bool.eq_false_iff]
      exact fun ends => free (List.any_eq_true.2 ⟨c, member, endsReserved ends⟩)
    rw [readOperand?, if_neg unmarked, List.takeWhile_append_of_pos inside, List.dropWhile_append_of_pos inside]
    simp [stop]

theorem columnDotless (field : Field) : '.' ∉ field.column.toList := by
  cases field <;> decide

theorem readConditionWritten {mark : Char} (stop : endsOperand mark) (c : Comparison) (rest : List Char) :
    readCondition? (condition c ++ mark :: rest) = some (.ofComparison c, mark :: rest) := by
  have column := readNameWritten (columnDotless c.field)
    ((operatorWord c.operator).toList ++ '.' :: (quote (operandText c) ++ mark :: rest))
  have operator := readNameWritten (operatorWordApart c.operator) (quote (operandText c) ++ mark :: rest)
  simp only [readCondition?, condition, List.cons_append, List.append_assoc, column, operator,
    readOperandWritten stop, bind, Option.bind]
  rfl

theorem readDisjunctionWritten (left right : Comparison) :
    readDisjunction? (disjunction left right) = some (.ofComparison left, .ofComparison right) := by
  have first : readCondition? (condition left ++ ',' :: (condition right ++ [')'])) =
      some (.ofComparison left, ',' :: (condition right ++ [')'])) := readConditionWritten rfl left _
  have second : readCondition? (condition right ++ [')']) = some (.ofComparison right, [')']) :=
    readConditionWritten rfl right []
  simp only [readDisjunction?, disjunction, readMark?, ↓reduceIte, List.cons_append, List.append_assoc, first, second,
    bind, Option.bind, List.isEmpty_nil]

theorem disjunctionReadBack (left right : Comparison) :
    (clauseParameter (.either left right)).1 = "or" ∧
    readDisjunction? (clauseParameter (.either left right)).2.toList =
      some (.ofComparison left, .ofComparison right) ∧
    ∀ field term, ∃ pattern, operandText ⟨field, .like, .text term⟩ = '*' :: (pattern ++ ['*']) ∧
      unescape pattern = term.toList := by
  refine ⟨rfl, ?_, ?_⟩
  · rw [clauseParameter, String.toList_ofList, readDisjunctionWritten]
  · intro field term
    exact ⟨escapePattern term.toList, rfl, unescapePattern term.toList⟩

end Postboard.Request
