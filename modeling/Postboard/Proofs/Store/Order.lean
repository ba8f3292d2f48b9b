import Postboard.Store

/-! The order in which a store answers. Comparing by any sort key is a total preorder on posts, so what
a store finds is the matching posts, each once, in ascending order of the key. -/
namespace Postboard
open Std

instance : TransOrd Instant := inferInstanceAs (TransCmp (compareOn Instant.position))

instance (field : Field) : TransCmp field.comparePosts :=
  match field with
  | .text => inferInstanceAs (TransCmp (compareOn Post.text))
  | .username => inferInstanceAs (TransCmp (compareOn Post.username))
  | .createdAt => inferInstanceAs (TransCmp (compareOn Post.createdAt))
  | .likes => inferInstanceAs (TransCmp (compareOn Post.likes))
  | .retweets => inferInstanceAs (TransCmp (compareOn Post.retweets))
  | .sentiment => inferInstanceAs (TransCmp (compareOn fun p : Post => p.sentiment.map (·.name)))

theorem transSwap {α : Type} {cmp : α → α → Ordering} (trans : TransCmp cmp) :
    TransCmp fun a b => (cmp a b).swap := by
  have same : (fun a b => (cmp a b).swap) = fun a b => cmp b a := by
    funext a b
    exact OrientedCmp.eq_swap.symm
  rw [same]
  exact TransCmp.opposite

instance (key : SortKey) : TransCmp key.comparePosts := by
  have field : TransCmp fun a b =>
      if key.descending then (key.field.comparePosts a b).swap else key.field.comparePosts a b := by
    cases key.descending
    · exact inferInstanceAs (TransCmp key.field.comparePosts)
    · exact transSwap inferInstance
  exact inferInstanceAs (TransCmp (compareLex
    (fun a b => if key.descending then (key.field.comparePosts a b).swap else key.field.comparePosts a b)
    (compareOn Post.id)))

theorem SortKey.total (key : SortKey) (a b : Post) :
    (key.comparePosts a b).isLE || (key.comparePosts b a).isLE := by
  rw [@OrientedCmp.eq_swap _ key.comparePosts _ b a]
  cases key.comparePosts a b <;> rfl

namespace Store

theorem matchingPerm (store : Store) (clauses : List Clause) (key : SortKey) :
    (store.matching clauses key).Perm (store.posts.filter (Plan.selects clauses)) :=
  List.mergeSort_perm _ _

theorem matchingSorted (store : Store) (clauses : List Clause) (key : SortKey) :
    (store.matching clauses key).Pairwise fun a b => (key.comparePosts a b).isLE :=
  List.pairwise_mergeSort (fun _ _ _ => TransCmp.isLE_trans) key.total _

theorem matchingLength (store : Store) (clauses : List Clause) (key : SortKey) :
    (store.matching clauses key).length = store.posts.countP (Plan.selects clauses) := by
  rw [(matchingPerm store clauses key).length_eq, List.countP_eq_length_filter]

theorem executeTotal (store : Store) (plan : Plan) :
    (store.execute plan).total.toNat = store.posts.countP (Plan.selects plan.clauses) := by
  have length := matchingLength store plan.clauses plan.sort
  have bound := List.countP_le_length (p := Plan.selects plan.clauses) (l := store.posts)
  have countable := store.countable
  simp only [execute, UInt64.toNat_ofNat', length]
  exact Nat.mod_eq_of_lt (Nat.lt_of_le_of_lt bound countable)

end Store
end Postboard
