import Postboard.Filter.Compile
import Postboard.Proofs.Text.Trim

/-! The clauses that filters ask for. Each compares a field with a value of its kind; the one clause of two
comparisons looks for the same text in both. -/
namespace Postboard
open Text

inductive Comparison.Typed : Comparison → Prop where
  | text (term : String) : Typed (.contains .text term)
  | username (term : String) : Typed (.contains .username term)
  | likes (operator : Operator) (n : UInt64) : Typed (.count .likes operator n)
  | retweets (operator : Operator) (n : UInt64) : Typed (.count .retweets operator n)
  | created (operator : Operator) (t : Instant) : Typed (.created operator t)
  | sentiment (s : Sentiment) : Typed ⟨.sentiment, .eq, .text s.name⟩

inductive Clause.Compiled : Clause → Prop where
  | only {c : Comparison} (typed : c.Typed) : Compiled (.only c)
  | either (term : String) : Compiled (.either (.contains .text term) (.contains .username term))

structure SearchInput.LooksFor (input : SearchInput) (v : String) : Prop where
  term : v.toList = trim input.term.toList
  present : v ≠ ""
  trimmed : trim v.toList = v.toList

inductive SearchInput.Asks (input : SearchInput) : Clause → Prop where
  | either {v : String} (category : input.category = .all) (text : input.LooksFor v) :
      Asks input (.either (.contains .text v) (.contains .username v))
  | text {v : String} (category : input.category = .text) (text : input.LooksFor v) : Asks input (.only (.contains .text v))
  | username {v : String} (category : input.category = .username) (text : input.LooksFor v) :
      Asks input (.only (.contains .username v))
  | created {op : Operator} (category : input.category = .date) (bound : op = .gte ∨ op = .lt) (t : Instant) :
      Asks input (.only (.created op t))
  | likes {op : Operator} (category : input.category = .likes) (orders : op ≠ .like) (n : UInt64) :
      Asks input (.only (.count .likes op n))
  | retweets {op : Operator} (category : input.category = .retweets) (orders : op ≠ .like) (n : UInt64) :
      Asks input (.only (.count .retweets op n))

inductive Filters.Asks (f : Filters) : Clause → Prop where
  | input {input : SearchInput} {c : Clause} (among : input ∈ f.inputs) (asks : input.Asks c) : Asks f c
  | sentiment {s : Sentiment} (chosen : f.sentiment = some s) : Asks f (.only ⟨.sentiment, .eq, .text s.name⟩)
  | dates {op : Operator} (bound : op = .gte ∨ op = .lt ∨ op = .lte) (t : Instant) : Asks f (.only (.created op t))

open Clause

theorem looksForTrimmed {input : SearchInput} (present : ¬(trim input.term.toList).isEmpty) :
    input.LooksFor (String.ofList (trim input.term.toList)) := by
  refine ⟨String.toList_ofList, ?_, by rw [String.toList_ofList, trimTrim]⟩
  intro empty
  rw [String.ofList_eq_empty_iff] at empty
  exact present (List.isEmpty_iff.2 empty)

theorem periodAsks {p : Period} {c : Clause} (inside : c ∈ p.clauses) :
    ∃ op t, (op = .gte ∨ op = if p.closed then .lte else .lt) ∧ c = .only (.created op t) := by
  rcases List.mem_append.1 inside with start | stop
  · obtain ⟨t, -, rfl⟩ := List.mem_map.1 start
    exact ⟨_, t, .inl rfl, rfl⟩
  · obtain ⟨t, -, rfl⟩ := List.mem_map.1 stop
    exact ⟨_, t, .inr rfl, rfl⟩

theorem periodBounds {p : Period} {c : Clause} (inside : c ∈ p.clauses) :
    ∃ op t, (op = .gte ∨ op = .lt ∨ op = .lte) ∧ c = .only (.created op t) := by
  obtain ⟨op, t, bound, rfl⟩ := periodAsks inside
  refine ⟨op, t, bound.imp_right fun upper => ?_, rfl⟩
  cases p.closed <;> simp_all

/- Only a picker can hold a timestamp that belongs to the span which it ends. -/
theorem readOpen {term : List Char} {p : Period} (read : Period.read? term = some p) : p.closed = false := by
  unfold Period.read? at read
  dsimp only at read
  split at read
  · split at read
    · contradiction
    · cases read
      rfl
  · obtain ⟨d, -, rfl⟩ := Option.map_eq_some_iff.1 read
    rfl

theorem splitOperatorOrders (s : List Char) : (CountTerm.splitOperator s).1 ≠ .like := by
  unfold CountTerm.splitOperator
  split <;> simp

theorem countAsks {term : List Char} {count : CountTerm} (read : CountTerm.read? term = some count) {field : Field}
    {c : Clause} (inside : c ∈ count.clauses field) : ∃ op n, op ≠ .like ∧ c = .only (.count field op n) := by
  unfold CountTerm.read? at read
  dsimp only at read
  split at read
  · split at read
    · contradiction
    · cases read
      rcases List.mem_append.1 inside with lower | upper
      · obtain ⟨n, -, rfl⟩ := List.mem_map.1 lower
        exact ⟨_, n, by decide, rfl⟩
      · obtain ⟨n, -, rfl⟩ := List.mem_map.1 upper
        exact ⟨_, n, by decide, rfl⟩
  · obtain ⟨n, -, rfl⟩ := Option.map_eq_some_iff.1 read
    exact ⟨_, n, splitOperatorOrders _, List.mem_singleton.1 inside⟩

theorem memRead {α : Type} {read : Option α} {clauses : α → List Clause} {c : Clause}
    (inside : c ∈ (read.map clauses).getD []) : ∃ a, read = some a ∧ c ∈ clauses a := by
  cases read with
  | none => contradiction
  | some a => exact ⟨a, rfl, inside⟩

theorem inputAsks {input : SearchInput} {c : Clause} (inside : c ∈ input.clauses) : input.Asks c := by
  unfold SearchInput.clauses at inside
  dsimp only at inside
  split at inside
  · contradiction
  · rename_i present
    have text := looksForTrimmed present
    split at inside
    · rename_i category
      exact List.mem_singleton.1 inside ▸ .either category text
    · rename_i category
      exact List.mem_singleton.1 inside ▸ .username category text
    · rename_i category
      exact List.mem_singleton.1 inside ▸ .text category text
    · rename_i category
      obtain ⟨p, read, among⟩ := memRead inside
      obtain ⟨op, t, bound, rfl⟩ := periodAsks among
      rw [readOpen read] at bound
      exact .created category bound t
    · rename_i category
      obtain ⟨count, read, among⟩ := memRead inside
      obtain ⟨op, n, orders, rfl⟩ := countAsks read among
      exact .likes category orders n
    · rename_i category
      obtain ⟨count, read, among⟩ := memRead inside
      obtain ⟨op, n, orders, rfl⟩ := countAsks read among
      exact .retweets category orders n

theorem filtersAsk {f : Filters} {c : Clause} (inside : c ∈ f.clauses) : f.Asks c := by
  rcases List.mem_append.1 inside with rest | dates
  · rcases List.mem_append.1 rest with inputs | sentiment
    · obtain ⟨input, among, inside⟩ := List.mem_flatMap.1 inputs
      exact .input among (inputAsks inside)
    · obtain ⟨s, chosen, rfl⟩ := List.mem_map.1 sentiment
      exact .sentiment (Option.mem_toList.1 chosen)
  · obtain ⟨op, t, bound, rfl⟩ := periodBounds dates
    exact .dates bound t

theorem filtersCompiled {f : Filters} {c : Clause} (inside : c ∈ f.clauses) : c.Compiled := by
  cases filtersAsk inside with
  | input among asks =>
    cases asks with
    | either _ _ => exact .either _
    | text _ _ => exact .only (.text _)
    | username _ _ => exact .only (.username _)
    | created _ _ t => exact .only (.created _ t)
    | likes _ _ n => exact .only (.likes _ n)
    | retweets _ _ n => exact .only (.retweets _ n)
  | @sentiment s _ => exact .only (.sentiment s)
  | dates _ t => exact .only (.created _ t)

end Postboard
