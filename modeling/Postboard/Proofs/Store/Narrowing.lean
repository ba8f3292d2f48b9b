import Mathlib.Data.List.Nodup
import Postboard.Proofs.Filter.Days
import Postboard.Proofs.Store.Arrangement

/-! Asking for more of the posts in a store. What is found then is what was found before, less the posts that
fall out; neither the order of the questions nor, where no id is there twice, the order of the posts counts. -/
namespace Postboard
open Std

namespace SortKey

variable {key : SortKey} {posts arranged : List Post}

theorem arrangesFilter (arranges : key.Arranges posts arranged) (select : Post → Bool) :
    key.Arranges (posts.filter select) (arranged.filter select) := by
  refine ⟨arranges.perm.filter select, arranges.ordered.filter select, ?_⟩
  intro group tie
  rw [List.filter_filter, List.filter_filter]
  apply arranges.stable
  intro a b inA inB
  exact tie a b (Bool.and_eq_true_iff.1 inA).1 (Bool.and_eq_true_iff.1 inB).1

theorem tiedId {a b : Post} (tied : key.Tied a b) : a.id = b.id := by
  have ids := (Ordering.then_eq_eq.1 (tiedIff.1 tied)).2
  exact LawfulEqCmp.eq_of_compare ids

theorem alikeOfPerm {one other : List Post} (perm : one.Perm other) (alike : ∀ a ∈ one, ∀ b ∈ other, a = b) :
    one = other :=
  List.Perm.eq_of_pairwise (fun a b inA inB _ _ => alike a inA b inB) (List.pairwise_of_forall fun _ _ => trivial)
    (List.pairwise_of_forall fun _ _ => trivial) perm

/- Without an id that is there twice, a group of posts that tie has one post at most. -/
theorem arrangesPerm {other : List Post} (arranges : key.Arranges posts arranged) (perm : posts.Perm other)
    (distinct : (posts.map (·.id)).Nodup) : key.Arranges other arranged := by
  have within := arranges.perm.trans perm
  refine ⟨within, arranges.ordered, ?_⟩
  intro group tie
  apply alikeOfPerm (within.filter group)
  intro a inA b inB
  rw [List.mem_filter] at inA inB
  exact List.inj_on_of_nodup_map distinct (arranges.perm.mem_iff.1 inA.1) (perm.mem_iff.2 inB.1)
    (tiedId (tie a b inA.2 inB.2))

end SortKey

def Window.whole : Window := ⟨0, 18446744073709551615⟩

structure Filters.Narrowed (f g : Filters) : Prop where
  inputs : f.inputs ⊆ g.inputs
  sentiment : f.sentiment = none ∨ g.sentiment = f.sentiment
  lower : DateRange.side f.dates.lower = [] ∨ g.dates.lower = f.dates.lower
  upper : DateRange.side f.dates.upper = [] ∨ g.dates.upper = f.dates.upper

namespace Period

theorem startBlank (upper : List Char) : (ofPickers [] upper).start = none := by
  rw [startOfPickers [] upper []]
  rfl

theorem stopBlank (lower : List Char) : (ofPickers lower []).stop = none := by
  rw [(stopOfPickers lower [] []).1]
  rfl

end Period

theorem DateRange.clausesNone : (DateRange.period {}).clauses = [] := rfl

theorem periodNarrowed {f g : Filters} (narrowed : f.Narrowed g) :
    f.dates.period.clauses ⊆ g.dates.period.clauses := by
  intro c inside
  unfold Period.clauses at inside ⊢
  rw [List.mem_append] at inside ⊢
  rcases inside with start | stop
  · left
    rcases narrowed.lower with blank | same
    · rw [DateRange.period, blank, Period.startBlank] at start
      contradiction
    · rwa [DateRange.period, same, Period.startOfPickers _ _ (DateRange.side f.dates.upper)]
  · right
    rcases narrowed.upper with blank | same
    · rw [DateRange.period, blank, Period.stopBlank] at stop
      contradiction
    · have picked := Period.stopOfPickers (DateRange.side g.dates.lower) (DateRange.side f.dates.lower)
        (DateRange.side f.dates.upper)
      rwa [DateRange.period, same, picked.1, picked.2]

theorem clausesNarrowed {f g : Filters} (narrowed : f.Narrowed g) : f.clauses ⊆ g.clauses := by
  intro c inside
  unfold Filters.clauses at inside ⊢
  rw [List.mem_append, List.mem_append] at inside ⊢
  rcases inside with (inputs | sentiment) | dates
  · obtain ⟨input, asked, inside⟩ := List.mem_flatMap.1 inputs
    exact .inl (.inl (List.mem_flatMap.2 ⟨input, narrowed.inputs asked, inside⟩))
  · rcases narrowed.sentiment with none | same
    · rw [none] at sentiment
      contradiction
    · exact .inl (.inr (same ▸ sentiment))
  · exact .inr (periodNarrowed narrowed dates)

theorem selectsOfSubset {c d : List Clause} (more : c ⊆ d) {p : Post} (selected : Plan.selects d p) :
    Plan.selects c p := by
  rw [Plan.selects, List.all_eq_true] at selected ⊢
  exact fun x inside => selected x (more inside)

theorem selectsPerm {c d : List Clause} (perm : c.Perm d) : Plan.selects c = Plan.selects d := by
  funext p
  exact Bool.eq_iff_iff.2 ⟨selectsOfSubset perm.symm.subset, selectsOfSubset perm.subset⟩

namespace Store

variable {store : Store} {c d e : List Clause} {key : SortKey}

theorem matchingBoth (both : ∀ p, Plan.selects e p ↔ Plan.selects c p ∧ Plan.selects d p) :
    store.matching e key = (store.matching c key).filter (Plan.selects d) := by
  have found : (store.posts.filter (Plan.selects c)).filter (Plan.selects d) = store.posts.filter (Plan.selects e) := by
    rw [List.filter_filter]
    congr 1
    funext p
    rw [Bool.eq_iff_iff, Bool.and_eq_true_iff, both, and_comm]
  have arranges := SortKey.arrangesFilter (store.matchingArranges c key) (Plan.selects d)
  rw [found] at arranges
  exact SortKey.arrangesUnique arranges (store.matchingArranges e key)

theorem matchingReordered {other : Store} (perm : store.posts.Perm other.posts) (distinct : (store.posts.map (·.id)).Nodup) :
    store.matching c key = other.matching c key := by
  have ids : ((store.posts.filter (Plan.selects c)).map (·.id)).Nodup :=
    distinct.sublist (List.filter_sublist.map _)
  have arranges := SortKey.arrangesPerm (store.matchingArranges c key) (perm.filter (Plan.selects c)) ids
  exact SortKey.arrangesUnique (other.matchingArranges c key) arranges

theorem executeWhole (store : Store) (c : List Clause) (key : SortKey) :
    (store.execute ⟨c, key, .whole⟩).posts = store.matching c key := by
  have length := store.matchingLength c key
  have bound := List.countP_le_length (p := Plan.selects c) (l := store.posts)
  have countable := store.countable
  simp only [UInt64.size] at countable
  show ((store.matching c key).drop 0).take 18446744073709551615 = _
  rw [List.drop_zero, List.take_of_length_le (by omega)]

theorem executeSame {other : Store} (same : store.matching c key = other.matching d key) (window : Window) :
    store.execute ⟨c, key, window⟩ = other.execute ⟨d, key, window⟩ := by
  simp only [execute, same]

theorem executeReworded (same : Plan.selects c = Plan.selects d) (window : Window) :
    store.execute ⟨c, key, window⟩ = store.execute ⟨d, key, window⟩ :=
  executeSame (by rw [matching, matching, same]) window

theorem selectionComposes (store : Store) (key : SortKey) :
    (∀ c d : List Clause, (store.execute ⟨c ++ d, key, .whole⟩).posts =
      (store.execute ⟨c, key, .whole⟩).posts.filter fun p => ∀ x ∈ d, x.matchesPost p) ∧
    (∀ f g : Filters, f.Narrowed g → (store.execute ⟨g.clauses, key, .whole⟩).posts =
      (store.execute ⟨f.clauses, key, .whole⟩).posts.filter fun p => ∀ x ∈ g.clauses, x.matchesPost p) ∧
    (∀ (f : Filters) before input after window, input.clauses = [] → f.inputs = before ++ after →
      store.execute ⟨{ f with inputs := before ++ input :: after }.clauses, key, window⟩ =
        store.execute ⟨f.clauses, key, window⟩) ∧
    (∀ c d window, c.Perm d → store.execute ⟨c, key, window⟩ = store.execute ⟨d, key, window⟩) ∧
    (∀ (f : Filters) inputs window, f.inputs.Perm inputs →
      store.execute ⟨f.clauses, key, window⟩ = store.execute ⟨{ f with inputs }.clauses, key, window⟩) ∧
    (∀ (other : Store) c window, store.posts.Perm other.posts → (store.posts.map (·.id)).Nodup →
      store.execute ⟨c, key, window⟩ = other.execute ⟨c, key, window⟩) := by
  refine ⟨?_, ?_, ?_, ?_, ?_, ?_⟩
  · intro c d
    rw [executeWhole, executeWhole, selectsSatisfied]
    exact matchingBoth (selectsAppend c d)
  · intro f g narrowed
    rw [executeWhole, executeWhole, selectsSatisfied]
    apply matchingBoth
    intro p
    exact ⟨fun selected => ⟨selectsOfSubset (clausesNarrowed narrowed) selected, selected⟩, And.right⟩
  · intro f before input after window nothing split
    have same : ({ f with inputs := before ++ input :: after } : Filters).clauses = f.clauses := by
      simp only [Filters.clauses, split, List.flatMap_append, List.flatMap_cons, nothing, List.nil_append]
    rw [same]
  · intro c d window perm
    exact executeReworded (selectsPerm perm) window
  · intro f inputs window perm
    have asked : f.clauses.Perm ({ f with inputs } : Filters).clauses :=
      ((perm.flatMap_right SearchInput.clauses).append_right _).append_right _
    exact executeReworded (selectsPerm asked) window
  · intro other c window perm distinct
    exact executeSame (matchingReordered perm distinct) window

def bulletin (id text : String) : Post :=
  { id, text, username := "u", sentiment := some .neutral, createdAt := .midnight ⟨739312, by decide, by decide⟩ }

def bulletins : Store := ⟨[bulletin "2" "rally", bulletin "1" "market"], by decide⟩

def bulletinsReversed : Store := ⟨bulletins.posts.reverse, by decide⟩

def ralliesSince : Filters :=
  { inputs := [⟨"rally", .text⟩], sentiment := some .neutral, dates := ⟨some "2024-03-01", none⟩ }

theorem bulletinsCompose :
    ({} : Filters).Narrowed ralliesSince ∧ (⟨" ", .all⟩ : SearchInput).clauses = [] ∧
    ralliesSince.clauses.Perm ralliesSince.clauses.reverse ∧
    bulletins.posts.Perm bulletinsReversed.posts ∧ (bulletins.posts.map (·.id)).Nodup ∧
    (bulletins.execute ⟨ralliesSince.clauses, {}, .whole⟩).posts =
      (bulletins.execute ⟨({} : Filters).clauses, {}, .whole⟩).posts.filter
        (fun p => ∀ x ∈ ralliesSince.clauses, x.matchesPost p) ∧
    bulletins.execute ⟨({ inputs := [⟨" ", .all⟩] } : Filters).clauses, {}, .whole⟩ =
      bulletins.execute ⟨({} : Filters).clauses, {}, .whole⟩ ∧
    bulletins.execute ⟨ralliesSince.clauses, {}, .whole⟩ = bulletins.execute ⟨ralliesSince.clauses.reverse, {}, .whole⟩ ∧
    bulletins.execute ⟨({ inputs := [⟨"rally", .text⟩, ⟨"u", .username⟩] } : Filters).clauses, {}, .whole⟩ =
      bulletins.execute ⟨({ inputs := [⟨"u", .username⟩, ⟨"rally", .text⟩] } : Filters).clauses, {}, .whole⟩ ∧
    bulletins.execute ⟨[], {}, .whole⟩ = bulletinsReversed.execute ⟨[], {}, .whole⟩ := by
  have composes := selectionComposes bulletins {}
  have narrowed : ({} : Filters).Narrowed ralliesSince := ⟨List.nil_subset _, .inl rfl, .inl rfl, .inl rfl⟩
  have blank : (⟨" ", .all⟩ : SearchInput).clauses = [] := by decide
  have clauses : ralliesSince.clauses.Perm ralliesSince.clauses.reverse := (List.reverse_perm _).symm
  have inputs : [⟨"rally", .text⟩, (⟨"u", .username⟩ : SearchInput)].Perm [⟨"u", .username⟩, ⟨"rally", .text⟩] := .swap _ _ _
  have posts : bulletins.posts.Perm bulletinsReversed.posts := (List.reverse_perm _).symm
  have distinct : (bulletins.posts.map (·.id)).Nodup := by decide
  exact ⟨narrowed, blank, clauses, posts, distinct, composes.2.1 _ _ narrowed,
    composes.2.2.1 {} [] _ [] .whole blank rfl, composes.2.2.2.1 _ _ .whole clauses,
    composes.2.2.2.2.1 _ _ .whole inputs, composes.2.2.2.2.2 _ [] .whole posts distinct⟩

end Store
end Postboard
