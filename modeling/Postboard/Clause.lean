import Postboard.Post

/-! Clauses: conditions on one post, each a comparison of a field with a value, or two of them. -/
namespace Postboard

inductive Field where
  | text
  | username
  | createdAt
  | likes
  | retweets
  | sentiment
  deriving DecidableEq

inductive Operator where
  | eq
  | like
  | gte
  | lte
  | gt
  | lt
  deriving DecidableEq

inductive Operand where
  | text (s : String)
  | integer (n : UInt64)
  | timestamp (t : Instant)
  deriving DecidableEq

structure Comparison where
  field : Field
  operator : Operator
  operand : Operand
  deriving DecidableEq

inductive Clause where
  | only (c : Comparison)
  | either (left right : Comparison)
  deriving DecidableEq

namespace Field

def all : List Field := [text, username, createdAt, likes, retweets, sentiment]

def column : Field → String
  | text => "text"
  | username => "username"
  | createdAt => "created_at"
  | likes => "like_count"
  | retweets => "retweet_count"
  | sentiment => "sentiment_score"

def ofColumn? (s : String) : Option Field := all.find? (·.column = s)

theorem ofColumnColumn (f : Field) : ofColumn? f.column = some f := by
  cases f <;> decide

end Field

namespace Operator

def all : List Operator := [eq, like, gte, lte, gt, lt]

def name : Operator → String
  | eq => "eq"
  | like => "like"
  | gte => "gte"
  | lte => "lte"
  | gt => "gt"
  | lt => "lt"

def ofName? (s : String) : Option Operator := all.find? (·.name = s)

theorem ofNameName (op : Operator) : ofName? op.name = some op := by
  cases op <;> decide

end Operator

def Operand.write : Operand → String
  | text s => s
  | integer n => n.toNat.repr
  | timestamp t => t.text

namespace Comparison

def contains (field : Field) (pattern : String) : Comparison := ⟨field, .like, .text pattern⟩

def count (field : Field) (operator : Operator) (n : UInt64) : Comparison := ⟨field, operator, .integer n⟩

def created (operator : Operator) (t : Instant) : Comparison := ⟨.createdAt, operator, .timestamp t⟩

def write (c : Comparison) : String :=
  c.field.column ++ " " ++ c.operator.name ++ " " ++ c.operand.write

end Comparison

namespace Clause

def comparisons : Clause → List Comparison
  | only c => [c]
  | either left right => [left, right]

def fields (c : Clause) : List Field := c.comparisons.map (·.field)

def write : Clause → String
  | only c => c.write
  | either left right => "(" ++ left.write ++ " or " ++ right.write ++ ")"

end Clause
end Postboard
