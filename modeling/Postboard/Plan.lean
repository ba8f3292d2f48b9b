import Postboard.Filter.Compile

/-! Plans: which posts, in which order, and which stretch of them. -/
namespace Postboard

structure SortKey where
  field : Field := .createdAt
  descending : Bool := true
  deriving DecidableEq

structure Window where
  offset : UInt64
  limit : UInt64
  deriving DecidableEq

structure Plan where
  clauses : List Clause
  sort : SortKey
  window : Window
  deriving DecidableEq

def Filters.plan (f : Filters) (window : Window) : Plan := ⟨f.clauses, {}, window⟩

end Postboard
