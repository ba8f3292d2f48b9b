import Postboard.Proofs.Filter.Compiled
import Postboard.Proofs.Request.Escape
import Postboard.Proofs.Text.Percent
import Postboard.Proofs.Time.Written

/-! Queries read back. The text of a query gives its parameters, whatever characters their values have,
and the parameters give the plan, if it is one that filters ask for. Plans of other origin are not
told apart: a number and a text of its digits stand alike in a parameter. -/
namespace Postboard.Request
open Text

def readParameter? (piece : List Char) : Option (String × String) :=
  match piece.dropWhile (· != '=') with
  | _ :: value => (Percent.decode? value).map (String.ofList (piece.takeWhile (· != '=')), ·)
  | [] => none

def readQuery (query : String) : List (Option (String × String)) :=
  (query.toList.splitOn '&').map readParameter?

structure NamePlain (name : String) : Prop where
  equals : '=' ∉ name.toList
  ampersand : '&' ∉ name.toList

theorem readParameterWritten {parameter : String × String} (plain : NamePlain parameter.1) :
    readParameter? (writeParameter parameter) = some parameter := by
  have before : ∀ c ∈ parameter.1.toList, (c != '=') = true := by
    intro c inside
    refine bne_iff_ne.2 ?_
    rintro rfl
    exact plain.equals inside
  have name : (writeParameter parameter).takeWhile (· != '=') = parameter.1.toList := by
    rw [writeParameter, List.takeWhile_append_of_pos before]
    simp
  have value : (writeParameter parameter).dropWhile (· != '=') = '=' :: Percent.encode parameter.2.toList := by
    rw [writeParameter, List.dropWhile_append_of_pos before]
    simp
  rw [readParameter?, name, value]
  simp [Percent.decodeEncode]

theorem writtenApart {parameter : String × String} (plain : NamePlain parameter.1) :
    '&' ∉ writeParameter parameter := by
  intro inside
  rcases List.mem_append.1 inside with name | rest
  · exact plain.ampersand name
  · rcases List.mem_cons.1 rest with equals | value
    · contradiction
    · exact Percent.encodedApart ⟨by decide, by decide⟩ _ value

theorem readQueryWritten {r : Request} (present : r.parameters ≠ []) (plain : ∀ p ∈ r.parameters, NamePlain p.1) :
    readQuery r.queryString = r.parameters.map some := by
  have apart : ∀ piece ∈ r.parameters.map writeParameter, '&' ∉ piece := by
    intro piece inside
    obtain ⟨p, member, rfl⟩ := List.mem_map.1 inside
    exact writtenApart (plain p member)
  have pieces : r.queryString.toList.splitOn '&' = r.parameters.map writeParameter := by
    rw [queryString, String.toList_ofList, List.splitOn_intercalate '&' apart (by simpa using present)]
  rw [readQuery, pieces, List.map_map]
  exact List.map_congr_left fun p member => readParameterWritten (plain p member)

theorem columnPlain (field : Field) : NamePlain field.column := by
  cases field <;> exact ⟨by decide, by decide⟩

theorem fixedNamePlain {name : String} (fixed : name ∈ ["select", "or", "order", "offset", "limit"]) :
    NamePlain name := by
  simp only [List.mem_cons, List.not_mem_nil, or_false] at fixed
  obtain rfl | rfl | rfl | rfl | rfl := fixed <;> exact ⟨by decide, by decide⟩

theorem clauseNamePlain (c : Clause) : NamePlain (clauseParameter c).1 := by
  cases c with
  | only c => exact columnPlain c.field
  | either left right => exact fixedNamePlain (by simp [clauseParameter])

theorem parameterNamesPlain (settings : Settings) (plan : Plan) :
    ∀ p ∈ parametersOf settings plan, NamePlain p.1 := by
  intro p inside
  simp only [parametersOf, List.cons_append, List.mem_cons, List.mem_append, List.not_mem_nil, or_false] at inside
  obtain rfl | clause | rfl | rfl | rfl := inside
  · exact fixedNamePlain (by simp)
  · obtain ⟨c, -, rfl⟩ := List.mem_map.1 clause
    exact clauseNamePlain c
  · exact fixedNamePlain (by simp)
  · exact fixedNamePlain (by simp)
  · exact fixedNamePlain (by simp)

theorem readQueryOfPlan (settings : Settings) (plan : Plan) :
    readQuery (ofPlan settings plan).queryString = (ofPlan settings plan).parameters.map some :=
  readQueryWritten (List.cons_ne_nil _ _) (parameterNamesPlain settings plan)

theorem parametersOfQuery {settings : Settings} {a b : Plan}
    (same : (ofPlan settings a).queryString = (ofPlan settings b).queryString) :
    parametersOf settings a = parametersOf settings b := by
  have read := congrArg readQuery same
  rw [readQueryOfPlan, readQueryOfPlan] at read
  exact List.map_injective_iff.2 (Option.some_injective _) read

theorem instantTextInjective {a b : Instant} (same : a.text = b.text) : a = b := by
  have written : a.write = b.write := String.ofList_inj.1 same
  have read := Time.readLenientWrite a
  rw [written, Time.readLenientWrite] at read
  exact (Option.some.inj read).symm

theorem countTextInjective {a b : UInt64} (same : a.toNat.repr = b.toNat.repr) : a = b :=
  UInt64.toNat_inj.1 (Nat.repr_inj.1 same)

theorem columnInjective {a b : Field} (same : a.column = b.column) : a = b := by
  have read := Field.ofColumnColumn a
  rw [same, Field.ofColumnColumn] at read
  exact (Option.some.inj read).symm

theorem operatorWordInjective {a b : Operator} (same : operatorWord a = operatorWord b) : a = b := by
  have found : ∀ op, Operator.all.find? (operatorWord · = operatorWord op) = some op := by
    intro op
    cases op <;> decide
  have first := found a
  rw [same, found b] at first
  exact (Option.some.inj first).symm

theorem operatorWordApart (op : Operator) : '.' ∉ (operatorWord op).toList := by
  cases op <;> decide

theorem firstMark {mark : Char} {a b x y : List Char} (left : mark ∉ a) (right : mark ∉ b)
    (same : a ++ mark :: x = b ++ mark :: y) : a = b ∧ x = y := by
  induction a generalizing b with
  | nil =>
    cases b with
    | nil => exact ⟨rfl, (List.cons.inj same).2⟩
    | cons c b =>
      have head : mark = c := (List.cons.inj same).1
      exact absurd (head ▸ List.mem_cons_self) right
  | cons c a ih =>
    cases b with
    | nil =>
      have head : c = mark := (List.cons.inj same).1
      exact absurd (head ▸ List.mem_cons_self) left
    | cons d b =>
      obtain ⟨rfl, tails⟩ := List.cons.inj same
      obtain ⟨rfl, rest⟩ := ih (List.not_mem_of_not_mem_cons left) (List.not_mem_of_not_mem_cons right) tails
      exact ⟨rfl, rest⟩

def containsText (term : String) : List Char := '*' :: (escapePattern term.toList ++ ['*'])

theorem containsTextInjective {a b : String} (same : containsText a = containsText b) : a = b := by
  have inner := List.append_cancel_right (List.cons.inj same).2
  exact String.toList_inj.1 (escapePatternInjective inner)

theorem countOperand (field : Field) (op : Operator) (n : UInt64) :
    operandText (.count field op n) = n.toNat.repr.toList := by
  cases op <;> rfl

theorem createdOperand (op : Operator) (t : Instant) : operandText (.created op t) = t.text.toList := by
  cases op <;> rfl

theorem countInjective {field : Field} {op : Operator} {a b : UInt64}
    (text : operandText (.count field op a) = operandText (.count field op b)) : a = b := by
  rw [countOperand, countOperand] at text
  exact countTextInjective (String.toList_inj.1 text)

/- A field has values of one kind, and within a kind the text of a value tells which one it is. -/
theorem operandTextInjective {c d : Comparison} (typed : c.Typed) (other : d.Typed) (field : c.field = d.field)
    (operator : c.operator = d.operator) (text : operandText c = operandText d) : c = d := by
  cases typed with
  | text term =>
    cases other with
    | text term' => rw [show term = term' from containsTextInjective text]
    | _ => cases field
  | username term =>
    cases other with
    | username term' => rw [show term = term' from containsTextInjective text]
    | _ => cases field
  | likes op n =>
    cases other with
    | likes op' n' =>
      obtain rfl : op = op' := operator
      rw [countInjective text]
    | _ => cases field
  | retweets op n =>
    cases other with
    | retweets op' n' =>
      obtain rfl : op = op' := operator
      rw [countInjective text]
    | _ => cases field
  | created op t =>
    cases other with
    | created op' t' =>
      obtain rfl : op = op' := operator
      rw [createdOperand, createdOperand] at text
      rw [instantTextInjective (String.toList_inj.1 text)]
    | _ => cases field
  | sentiment s =>
    cases other with
    | sentiment s' => rw [show s.name = s'.name from String.toList_inj.1 text]
    | _ => cases field

theorem onlyInjective {c d : Comparison} (typed : c.Typed) (other : d.Typed)
    (same : clauseParameter (.only c) = clauseParameter (.only d)) : c = d := by
  obtain ⟨name, value⟩ := Prod.mk.inj same
  obtain ⟨words, text⟩ := firstMark (operatorWordApart _) (operatorWordApart _) (String.ofList_inj.1 value)
  exact operandTextInjective typed other (columnInjective name)
    (operatorWordInjective (String.toList_inj.1 words)) text

theorem columnNotOr (field : Field) : field.column ≠ "or" := by
  cases field <;> decide

def containsStart (field : Field) : List Char :=
  field.column.toList ++ '.' :: (operatorWord .like).toList ++ ['.']

theorem containsCondition (field : Field) (term : String) :
    condition (.contains field term) = containsStart field ++ quote (containsText term) := by
  have operand : operandText (.contains field term) = containsText term := rfl
  have word : (Comparison.contains field term).operator = .like := rfl
  rw [condition, operand, word, containsStart]
  simp [Comparison.contains]

theorem eitherText (term : String) :
    disjunction (.contains .text term) (.contains .username term) =
      ('(' :: containsStart .text) ++ (quote (containsText term) ++
        ',' :: (containsStart .username ++ (quote (containsText term) ++ [')']))) := by
  rw [disjunction, containsCondition, containsCondition]
  simp only [List.cons_append, List.append_assoc]

/- Both conditions of a disjunction look for the same term, so the lengths already tell where the first ends. -/
theorem eitherInjective {a b : String}
    (same : clauseParameter (.either (.contains .text a) (.contains .username a)) =
      clauseParameter (.either (.contains .text b) (.contains .username b))) : a = b := by
  have text : disjunction (.contains .text a) (.contains .username a) =
      disjunction (.contains .text b) (.contains .username b) := String.ofList_inj.1 (Prod.mk.inj same).2
  rw [eitherText, eitherText] at text
  have conditions := List.append_cancel_left text
  have length := congrArg List.length conditions
  simp only [List.length_append, List.length_cons] at length
  have quoted := List.append_inj_left conditions (by omega)
  exact containsTextInjective (quoteInjective quoted)

theorem clauseParameterInjective {c d : Clause} (compiled : c.Compiled) (other : d.Compiled)
    (same : clauseParameter c = clauseParameter d) : c = d := by
  cases compiled with
  | only typed =>
    cases other with
    | only typed' => rw [onlyInjective typed typed' same]
    | either term => exact absurd (Prod.mk.inj same).1 (columnNotOr _)
  | either term =>
    cases other with
    | only typed => exact absurd (Prod.mk.inj same).1.symm (columnNotOr _)
    | either term' => rw [eitherInjective same]

theorem clauseParametersInjective {cs ds : List Clause} (compiled : ∀ c ∈ cs, c.Compiled)
    (other : ∀ d ∈ ds, d.Compiled) (same : cs.map clauseParameter = ds.map clauseParameter) : cs = ds := by
  induction cs generalizing ds with
  | nil => exact (List.map_eq_nil_iff.1 same.symm).symm
  | cons c cs ih =>
    cases ds with
    | nil => contradiction
    | cons d ds =>
      obtain ⟨first, rest⟩ := List.cons.inj same
      rw [List.forall_mem_cons] at compiled other
      rw [clauseParameterInjective compiled.1 other.1 first, ih compiled.2 other.2 rest]

theorem planParametersInjective {settings : Settings} {f g : Filters} {v w : Window}
    (same : parametersOf settings (f.plan v) = parametersOf settings (g.plan w)) : f.plan v = g.plan w := by
  obtain ⟨clauses, last⟩ := List.append_inj' (List.cons.inj same).2 rfl
  have asked : f.clauses = g.clauses :=
    clauseParametersInjective (fun _ => filtersCompiled) (fun _ => filtersCompiled) clauses
  simp only [Filters.plan, List.cons.injEq, Prod.mk.injEq] at last
  obtain ⟨-, ⟨-, offset⟩, ⟨-, limit⟩, -⟩ := last
  have window : v = w := congrArg₂ Window.mk (countTextInjective offset) (countTextInjective limit)
  rw [Filters.plan, Filters.plan, asked, window]

theorem queryDeterminesPlan (settings : Settings) :
    (∀ plan : Plan, readQuery (ofPlan settings plan).queryString = (ofPlan settings plan).parameters.map some) ∧
    ∀ (f g : Filters) (v w : Window),
      (ofPlan settings (f.plan v)).queryString = (ofPlan settings (g.plan w)).queryString → f.plan v = g.plan w := by
  refine ⟨readQueryOfPlan settings, ?_⟩
  intro f g v w same
  exact planParametersInjective (parametersOfQuery same)

/- Filters that differ in their blanks alone: the query does not tell them apart, and the plan is one. -/
theorem blanksAroundForgery :
    Filters.search " a&limit=1,*)" .all ≠ .search "a&limit=1,*)\t" .all ∧
    (Filters.search " a&limit=1,*)" .all).plan ⟨20, 10⟩ = (Filters.search "a&limit=1,*)\t" .all).plan ⟨20, 10⟩ :=
  ⟨by decide, (queryDeterminesPlan {}).2 _ _ _ _ (by decide +kernel)⟩

end Postboard.Request
