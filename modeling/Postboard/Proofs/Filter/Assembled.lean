import Mathlib.Data.List.Forall2
import Postboard.Proofs.Filter.Compiled
import Postboard.Store

/-! The plan that filters make. Its clauses stand in the order of the inputs, then comes the sentiment, then the
date pickers, and no post meets one that it cannot be compared by: the value is of the field's kind, and only
what is text is searched for a text. -/
namespace Postboard
open Text

/-- The answer of a comparison where it has one. There is none if the value is not of the field's kind, or if a
counter or an instant is to be like something. -/
def Comparison.decided? (c : Comparison) (p : Post) : Option Bool :=
  match c.field, c.operand with
  | .text, .text v => some (c.operator.holdsText p.text v)
  | .username, .text v => some (c.operator.holdsText p.username v)
  | .sentiment, .text v => some (p.sentiment.any fun s => c.operator.holdsText s.name v)
  | .likes, .integer v => if c.operator = .like then none else some (c.operator.holds (compare p.likes v))
  | .retweets, .integer v => if c.operator = .like then none else some (c.operator.holds (compare p.retweets v))
  | .createdAt, .timestamp v => if c.operator = .like then none else some (c.operator.holds (compare p.createdAt v))
  | _, _ => none

/- What is not decided does not hold, which is how a clause may fail without anyone noticing. -/
theorem matchesDecided (c : Comparison) (p : Post) : c.matchesPost p = (c.decided? p).getD false := by
  obtain ⟨field, op, operand⟩ := c
  cases field <;> cases operand <;> cases op <;> rfl

inductive InBounds : List Clause → Prop where
  | nothing : InBounds []
  | single (c : Clause) : InBounds [c]
  | both (field : Field) {op : Operator} (upper : op = .lt ∨ op = .lte) (low high : Operand) :
      InBounds [.only ⟨field, .gte, low⟩, .only ⟨field, op, high⟩]

structure SearchInput.Adds (input : SearchInput) (part : List Clause) : Prop where
  order : InBounds part
  asked : ∀ c ∈ part, input.Asks c
  blank : trim input.term.toList = [] → part = []

inductive Sentiment.Adds : Option Sentiment → List Clause → Prop where
  | open : Adds none []
  | chosen (s : Sentiment) : Adds (some s) [.only ⟨.sentiment, .eq, .text s.name⟩]

structure DateRange.Adds (part : List Clause) : Prop where
  order : InBounds part
  bounds : ∀ c ∈ part, ∃ op t, (op = .gte ∨ op = .lt ∨ op = .lte) ∧ c = .only (.created op t)

inductive Filters.Assembled (f : Filters) : List Clause → Prop where
  | parts {inputs : List (List Clause)} {sentiment dates : List Clause}
      (added : List.Forall₂ SearchInput.Adds f.inputs inputs) (labelled : Sentiment.Adds f.sentiment sentiment)
      (picked : DateRange.Adds dates) : Assembled f (inputs.flatten ++ sentiment ++ dates)

theorem inBoundsOptions {α : Type} (field : Field) {op : Operator} (upper : op = .lt ∨ op = .lte) (operand : α → Operand)
    (low high : Option α) :
    InBounds ((low.toList.map fun a => .only ⟨field, .gte, operand a⟩) ++
      (high.toList.map fun a => .only ⟨field, op, operand a⟩)) := by
  cases low with
  | none =>
    cases high with
    | none => exact .nothing
    | some b => exact .single _
  | some a =>
    cases high with
    | none => exact .single _
    | some b => exact .both field upper _ _

theorem periodInBounds (p : Period) : InBounds p.clauses :=
  inBoundsOptions .createdAt (by cases p.closed <;> simp) .timestamp p.start p.stop

theorem countInBounds (field : Field) (count : CountTerm) : InBounds (count.clauses field) := by
  cases count with
  | range low high => exact inBoundsOptions field (.inr rfl) .integer low high
  | compare op n => exact .single _

theorem readInBounds {α : Type} {clauses : α → List Clause} (each : ∀ a, InBounds (clauses a)) (read : Option α) :
    InBounds ((read.map clauses).getD []) := by
  cases read with
  | none => exact .nothing
  | some a => exact each a

theorem inputInBounds (input : SearchInput) : InBounds input.clauses := by
  unfold SearchInput.clauses
  dsimp only
  split
  · exact .nothing
  · split
    · exact .single _
    · exact .single _
    · exact .single _
    · exact readInBounds periodInBounds _
    · exact readInBounds (countInBounds .likes) _
    · exact readInBounds (countInBounds .retweets) _

theorem blankInput {input : SearchInput} (blank : trim input.term.toList = []) : input.clauses = [] := by
  simp [SearchInput.clauses, blank]

theorem inputAdds (input : SearchInput) : input.Adds input.clauses :=
  ⟨inputInBounds input, fun _ => inputAsks, blankInput⟩

theorem filtersAssembled (f : Filters) : f.Assembled f.clauses := by
  have added : List.Forall₂ SearchInput.Adds f.inputs (f.inputs.map SearchInput.clauses) :=
    List.forall₂_map_right_iff.2 (List.forall₂_same.2 fun input _ => inputAdds input)
  have labelled : Sentiment.Adds f.sentiment (f.sentiment.toList.map fun s => .only ⟨.sentiment, .eq, .text s.name⟩) := by
    cases f.sentiment with
    | none => exact .open
    | some s => exact .chosen s
  exact .parts added labelled ⟨periodInBounds _, fun _ => periodBounds⟩

theorem likeOfText {f : Filters} {c : Clause} (asks : f.Asks c) {x : Comparison} (among : x ∈ c.comparisons)
    (like : x.operator = .like) : x.field = .text ∨ x.field = .username := by
  cases asks with
  | input _ asks =>
    cases asks with
    | either _ _ =>
      rcases List.mem_cons.1 among with rfl | last
      · exact .inl rfl
      · exact .inr (List.mem_singleton.1 last ▸ rfl)
    | text _ _ => exact .inl (List.mem_singleton.1 among ▸ rfl)
    | username _ _ => exact .inr (List.mem_singleton.1 among ▸ rfl)
    | created _ bound _ =>
      obtain rfl := List.mem_singleton.1 among
      rcases bound with rfl | rfl <;> contradiction
    | likes _ orders _ =>
      obtain rfl := List.mem_singleton.1 among
      exact absurd like orders
    | retweets _ orders _ =>
      obtain rfl := List.mem_singleton.1 among
      exact absurd like orders
  | sentiment _ =>
    obtain rfl := List.mem_singleton.1 among
    contradiction
  | dates bound _ =>
    obtain rfl := List.mem_singleton.1 among
    rcases bound with rfl | rfl | rfl <;> contradiction

theorem compiledTyped {c : Clause} (compiled : c.Compiled) {x : Comparison} (among : x ∈ c.comparisons) : x.Typed := by
  cases compiled with
  | only typed => exact List.mem_singleton.1 among ▸ typed
  | either term =>
    rcases List.mem_cons.1 among with rfl | last
    · exact .text term
    · exact List.mem_singleton.1 last ▸ .username term

theorem typedDecided {x : Comparison} (typed : x.Typed) (like : x.operator = .like → x.field = .text ∨ x.field = .username)
    (p : Post) : x.decided? p = some (x.matchesPost p) := by
  have answered : (x.decided? p).isSome := by
    cases typed with
    | text term => rfl
    | username term => rfl
    | sentiment s => rfl
    | likes op n =>
      have orders : op ≠ .like := fun same => by simpa [Comparison.count] using like same
      simp [Comparison.decided?, Comparison.count, orders]
    | retweets op n =>
      have orders : op ≠ .like := fun same => by simpa [Comparison.count] using like same
      simp [Comparison.decided?, Comparison.count, orders]
    | created op t =>
      have orders : op ≠ .like := fun same => by simpa [Comparison.created] using like same
      simp [Comparison.decided?, Comparison.created, orders]
  rw [matchesDecided]
  obtain ⟨b, answer⟩ := Option.isSome_iff_exists.1 answered
  rw [answer, Option.getD_some]

theorem planAssembled (f : Filters) (window : Window) :
    let plan := f.plan window
    plan.window = window ∧ plan.sort = ⟨.createdAt, true⟩ ∧ f.Assembled plan.clauses ∧
    (∀ c ∈ plan.clauses, f.Asks c) ∧
    ∀ c ∈ plan.clauses, ∀ x ∈ c.comparisons, (x.operator = .like → x.field = .text ∨ x.field = .username) ∧
      ∀ p, x.decided? p = some (x.matchesPost p) := by
  refine ⟨rfl, rfl, filtersAssembled f, fun _ => filtersAsk, ?_⟩
  intro c inside x among
  have like := fun like => likeOfText (filtersAsk inside) among like
  exact ⟨like, typedDecided (compiledTyped (filtersCompiled inside) among) like⟩

def rally : Filters where
  inputs := [⟨" rally ", .all⟩, ⟨"10-20", .likes⟩, ⟨"  ", .text⟩]
  sentiment := some .positive
  dates := ⟨none, some "2024-02-29T23:59:60Z"⟩

def rallyClause : Clause := .either (.contains .text "rally") (.contains .username "rally")

theorem rallyAssembled :
    (rally.plan ⟨0, 20⟩).clauses =
      [rallyClause, .only (.count .likes .gte 10), .only (.count .likes .lte 20),
        .only ⟨.sentiment, .eq, .text "Positive"⟩,
        .only (.created .lte ⟨⟨739310, by decide, by decide⟩, 86399, 1000000000, by decide, .inr (by decide)⟩)] ∧
    rally.Assembled (rally.plan ⟨0, 20⟩).clauses ∧ rallyClause ∈ (rally.plan ⟨0, 20⟩).clauses ∧ rally.Asks rallyClause ∧
    (Comparison.contains .username "rally" ∈ rallyClause.comparisons) ∧
    ∀ p, (Comparison.contains .username "rally").decided? p = some ((Comparison.contains .username "rally").matchesPost p) := by
  obtain ⟨-, -, assembled, asks, decided⟩ := planAssembled rally ⟨0, 20⟩
  have inside : rallyClause ∈ (rally.plan ⟨0, 20⟩).clauses := by decide +kernel
  have among : Comparison.contains .username "rally" ∈ rallyClause.comparisons := by decide
  exact ⟨by decide +kernel, assembled, inside, asks _ inside, among, (decided _ inside _ among).2⟩

end Postboard
