import Postboard.Proofs.Store.Order

/-! What a sort key makes of a list of posts. It is said without the comparator: which of two posts comes first,
and that posts of which neither comes first stay as they are stored. There is one such arrangement only, and a
store answers with a stretch of it. A page is all that an answer is; the store stays the one that was asked. -/
namespace Postboard
open Std

/- A post without a sentiment comes before all that have one. -/
def Field.Before (field : Field) (a b : Post) : Prop :=
  match field with
  | .text => a.text < b.text
  | .username => a.username < b.username
  | .createdAt => a.createdAt.position < b.createdAt.position
  | .likes => a.likes < b.likes
  | .retweets => a.retweets < b.retweets
  | .sentiment => a.sentiment.map (·.name) < b.sentiment.map (·.name)

theorem textCompareLt {a b : String} : compare a b = .lt ↔ a < b := compareOfLessAndEq_eq_lt

theorem labelCompareLt {a b : Option String} : compare a b = .lt ↔ a < b := by
  cases a with
  | none =>
    cases b with
    | none => simp
    | some b => exact iff_of_true rfl trivial
  | some a =>
    cases b with
    | none => simp
    | some b => exact textCompareLt

theorem beforeIff {field : Field} {a b : Post} : field.Before a b ↔ field.comparePosts a b = .lt := by
  cases field with
  | text => exact textCompareLt.symm
  | username => exact textCompareLt.symm
  | createdAt => exact Int.compare_eq_lt.symm
  | likes => exact compare_eq_lt.symm
  | retweets => exact compare_eq_lt.symm
  | sentiment => exact labelCompareLt.symm

theorem neitherBefore {α : Type} {cmp : α → α → Ordering} [OrientedCmp cmp] {a b : α} :
    ¬cmp a b = .lt ∧ ¬cmp b a = .lt ↔ cmp a b = .eq := by
  rw [@OrientedCmp.eq_swap _ cmp _ b a]
  cases cmp a b <;> decide

namespace SortKey

def Precedes (key : SortKey) (a b : Post) : Prop :=
  (if key.descending then key.field.Before b a else key.field.Before a b) ∨
  (¬key.field.Before a b ∧ ¬key.field.Before b a) ∧ a.id < b.id

def Tied (key : SortKey) (a b : Post) : Prop := ¬key.Precedes a b ∧ ¬key.Precedes b a

def SameGroups (key : SortKey) (one other : List Post) : Prop :=
  ∀ group : Post → Bool, (∀ a b, group a → group b → key.Tied a b) → one.filter group = other.filter group

structure Arranges (key : SortKey) (posts arranged : List Post) : Prop where
  perm : arranged.Perm posts
  ordered : arranged.Pairwise fun a b => ¬key.Precedes b a
  stable : key.SameGroups arranged posts

variable {key : SortKey} {a b : Post}

theorem precedesIff : key.Precedes a b ↔ key.comparePosts a b = .lt := by
  have same : ¬key.field.Before a b ∧ ¬key.field.Before b a ↔ key.field.comparePosts a b = .eq := by
    rw [beforeIff, beforeIff, neitherBefore]
  unfold Precedes comparePosts
  rw [Ordering.then_eq_lt, textCompareLt, same]
  cases key.descending with
  | false => simp [beforeIff]
  | true => simp [beforeIff, OrientedCmp.gt_iff_lt]

theorem tiedIff : key.Tied a b ↔ key.comparePosts a b = .eq := by
  unfold Tied
  rw [precedesIff, precedesIff, neitherBefore]

theorem notPrecedesIff : ¬key.Precedes b a ↔ (key.comparePosts a b).isLE := by
  rw [precedesIff, @OrientedCmp.eq_swap _ key.comparePosts _ b a]
  cases key.comparePosts a b <;> decide

theorem notPrecedesSelf (key : SortKey) (p : Post) : ¬key.Precedes p p := by
  rw [precedesIff, @ReflCmp.compare_self _ key.comparePosts _ p]
  decide

theorem headsTie {one other : List Post} (perm : (a :: one).Perm (b :: other))
    (leastA : ∀ p ∈ one, ¬key.Precedes p a) (leastB : ∀ p ∈ other, ¬key.Precedes p b) : key.Tied a b := by
  constructor
  · rcases List.mem_cons.1 (perm.mem_iff.1 (.head one)) with rfl | inside
    · exact key.notPrecedesSelf a
    · exact leastB a inside
  · rcases List.mem_cons.1 (perm.mem_iff.2 (.head other)) with rfl | inside
    · exact key.notPrecedesSelf b
    · exact leastA b inside

theorem sameGroupsHead {one other : List Post} (same : key.SameGroups (a :: one) (b :: other))
    (tied : key.Tied a b) : a = b := by
  have group := same (fun p => key.comparePosts a p = .eq) (by
    intro p q first second
    have back := OrientedCmp.eq_symm (of_decide_eq_true first)
    exact tiedIff.2 (TransCmp.eq_trans back (of_decide_eq_true second)))
  have self : key.comparePosts a a = .eq := ReflCmp.compare_self
  simp only [List.filter_cons, self, tiedIff.1 tied, decide_true, ↓reduceIte] at group
  exact (List.cons.inj group).1

theorem sameGroupsTail {one other : List Post} (same : key.SameGroups (a :: one) (a :: other)) :
    key.SameGroups one other := by
  intro group tie
  have both := same group tie
  rw [List.filter_cons, List.filter_cons] at both
  split at both
  · exact (List.cons.inj both).2
  · exact both

/- The first posts of both lists tie, and so they stand first in the same group. -/
theorem oneArrangement {one other : List Post} (perm : one.Perm other)
    (left : one.Pairwise fun a b => ¬key.Precedes b a) (right : other.Pairwise fun a b => ¬key.Precedes b a)
    (same : key.SameGroups one other) : one = other := by
  induction one generalizing other with
  | nil => exact perm.nil_eq
  | cons a one ih =>
    cases other with
    | nil => exact absurd perm.symm.nil_eq (List.cons_ne_nil a one).symm
    | cons b other =>
      rw [List.pairwise_cons] at left right
      obtain rfl := sameGroupsHead same (headsTie perm left.1 right.1)
      rw [ih perm.cons_inv left.2 right.2 (sameGroupsTail same)]

theorem arrangesUnique {posts one other : List Post} (first : key.Arranges posts one)
    (second : key.Arranges posts other) : other = one := by
  apply oneArrangement (second.perm.trans first.perm.symm) second.ordered first.ordered
  intro group tie
  rw [second.stable group tie, first.stable group tie]

end SortKey

namespace Store

theorem matchingOrdered (store : Store) (clauses : List Clause) (key : SortKey) :
    (store.matching clauses key).Pairwise fun a b => ¬key.Precedes b a :=
  (store.matchingSorted clauses key).imp fun sorted => SortKey.notPrecedesIff.2 sorted

/- Posts that tie are in order as they are, and sorting takes nothing apart that is in order. -/
theorem matchingStable (store : Store) (clauses : List Clause) (key : SortKey) :
    key.SameGroups (store.matching clauses key) (store.posts.filter (Plan.selects clauses)) := by
  intro group tie
  generalize found : store.posts.filter (Plan.selects clauses) = posts
  have sorted : (posts.filter group).Pairwise fun a b => (key.comparePosts a b).isLE := by
    apply List.pairwise_of_forall_mem_list
    intro a inA b inB
    exact SortKey.notPrecedesIff.1 (tie a b (List.mem_filter.1 inA).2 (List.mem_filter.1 inB).2).2
  have kept : (posts.filter group).Sublist (store.matching clauses key) := by
    rw [matching, found]
    exact List.sublist_mergeSort (fun _ _ _ => TransCmp.isLE_trans) key.total sorted List.filter_sublist
  have perm : (store.matching clauses key).Perm posts := found ▸ store.matchingPerm clauses key
  have inside := kept.filter group
  rw [List.filter_filter] at inside
  simp only [Bool.and_self] at inside
  exact (inside.eq_of_length (perm.filter group).length_eq.symm).symm

theorem matchingArranges (store : Store) (clauses : List Clause) (key : SortKey) :
    key.Arranges (store.posts.filter (Plan.selects clauses)) (store.matching clauses key) :=
  ⟨store.matchingPerm clauses key, store.matchingOrdered clauses key, store.matchingStable clauses key⟩

theorem selectsSatisfied (clauses : List Clause) :
    (fun p => decide (∀ c ∈ clauses, c.matchesPost p)) = Plan.selects clauses := by
  funext p
  rw [Plan.selects, Bool.eq_iff_iff, decide_eq_true_iff, List.all_eq_true]

theorem executeArranges (store : Store) (clauses : List Clause) (key : SortKey) :
    ∃ arranged : List Post,
      key.Arranges (store.posts.filter fun p => ∀ c ∈ clauses, c.matchesPost p) arranged ∧
      (∀ other, key.Arranges (store.posts.filter fun p => ∀ c ∈ clauses, c.matchesPost p) other → other = arranged) ∧
      ∀ window : Window,
        let page := store.execute ⟨clauses, key, window⟩
        page.total.toNat = arranged.length ∧
        ∀ i, page.posts[i]? = if i < window.limit.toNat then arranged[window.offset.toNat + i]? else none := by
  rw [selectsSatisfied]
  have arranges := store.matchingArranges clauses key
  refine ⟨store.matching clauses key, arranges, fun other => SortKey.arrangesUnique arranges, ?_⟩
  intro window page
  refine ⟨?_, ?_⟩
  · rw [matchingLength]
    exact store.executeTotal _
  · intro i
    show ((((store.matching clauses key).drop window.offset.toNat).take window.limit.toNat))[i]? = _
    rw [List.getElem?_take, List.getElem?_drop]

end Store
end Postboard
