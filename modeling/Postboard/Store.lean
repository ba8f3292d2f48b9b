import Postboard.Plan
import Postboard.Text.Wildcard

/-! A store of posts in memory, and what a plan finds in it. -/
namespace Postboard

open Text

structure Page where
  posts : List Post := []
  total : UInt64 := 0
  deriving DecidableEq

structure Store where
  posts : List Post
  countable : posts.length < UInt64.size

namespace Store

def ofList (posts : List Post) : Store :=
  ⟨posts.take (UInt64.size - 1), by simp only [List.length_take, UInt64.size]; omega⟩

end Store

def Operator.holds (op : Operator) (ordering : Ordering) : Bool :=
  match op with
  | .eq => ordering == .eq
  | .gte => ordering != .lt
  | .lte => ordering != .gt
  | .gt => ordering == .gt
  | .lt => ordering == .lt
  | .like => false

def Operator.holdsText (op : Operator) (actual expected : String) : Bool :=
  match op with
  | .like => Wildcard.occursIn expected.toList actual.toList
  | other => other.holds (compare actual expected)

def Comparison.matchesPost (c : Comparison) (p : Post) : Bool :=
  match c.field, c.operand with
  | .text, .text v => c.operator.holdsText p.text v
  | .username, .text v => c.operator.holdsText p.username v
  | .sentiment, .text v => p.sentiment.any fun s => c.operator.holdsText s.name v
  | .likes, .integer v => c.operator.holds (compare p.likes v)
  | .retweets, .integer v => c.operator.holds (compare p.retweets v)
  | .createdAt, .timestamp v => c.operator.holds (compare p.createdAt v)
  | _, _ => false

def Clause.matchesPost (c : Clause) (p : Post) : Bool := c.comparisons.any (·.matchesPost p)

def Plan.selects (clauses : List Clause) (p : Post) : Bool := clauses.all (·.matchesPost p)

def Field.comparePosts (field : Field) (a b : Post) : Ordering :=
  match field with
  | .text => compare a.text b.text
  | .username => compare a.username b.username
  | .createdAt => compare a.createdAt b.createdAt
  | .likes => compare a.likes b.likes
  | .retweets => compare a.retweets b.retweets
  | .sentiment => compare (a.sentiment.map (·.name)) (b.sentiment.map (·.name))

def SortKey.comparePosts (key : SortKey) (a b : Post) : Ordering :=
  let order := key.field.comparePosts a b
  (if key.descending then order.swap else order).then (compare a.id b.id)

namespace Store

def matching (store : Store) (clauses : List Clause) (key : SortKey) : List Post :=
  (store.posts.filter (Plan.selects clauses)).mergeSort fun a b => (key.comparePosts a b).isLE

def execute (store : Store) (plan : Plan) : Page :=
  let found := store.matching plan.clauses plan.sort
  { posts := (found.drop plan.window.offset.toNat).take plan.window.limit.toNat
    total := UInt64.ofNat found.length }

end Store
end Postboard
