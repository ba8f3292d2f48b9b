import Postboard.Plan
import Postboard.Settings
import Postboard.Text.Percent

/-! A plan as a request to the remote table service: a path, parameters in order, and headers. -/
namespace Postboard

open Text

structure Request where
  path : String
  parameters : List (String × String)
  headers : List (String × String)
  deriving DecidableEq

namespace Request

def operatorWord : Operator → String
  | .like => "ilike"
  | other => other.name

/-- A term inside a pattern: percent sign, underscore and backslash stand for themselves. A star is
left alone, since it stands for any run of characters on both sides. -/
def escapePattern (term : List Char) : List Char :=
  term.flatMap fun c => if c = '%' ∨ c = '_' ∨ c = '\\' then ['\\', c] else [c]

def operandText (c : Comparison) : List Char :=
  match c.operator, c.operand with
  | .like, .text term => '*' :: (escapePattern term.toList ++ ['*'])
  | _, operand => operand.write.toList

def isReserved (c : Char) : Bool :=
  c == ',' || c == '.' || c == ':' || c == '(' || c == ')' || c == '"' || c == '\\' || c == ' '

def quote (s : List Char) : List Char :=
  if s.any isReserved then
    '"' :: (s.flatMap (fun c => if c = '"' ∨ c = '\\' then ['\\', c] else [c]) ++ ['"'])
  else s

def condition (c : Comparison) : List Char :=
  c.field.column.toList ++ '.' :: (operatorWord c.operator).toList ++ '.' :: quote (operandText c)

def disjunction (left right : Comparison) : List Char :=
  '(' :: (condition left ++ ',' :: condition right ++ [')'])

def clauseParameter : Clause → String × String
  | .only c =>
    (c.field.column, String.ofList ((operatorWord c.operator).toList ++ '.' :: operandText c))
  | .either left right => ("or", String.ofList (disjunction left right))

def parametersOf (settings : Settings) (plan : Plan) : List (String × String) :=
  ("select", settings.select) :: plan.clauses.map clauseParameter ++ [
    ("order", plan.sort.field.column ++ "." ++ (if plan.sort.descending then "desc" else "asc")),
    ("offset", plan.window.offset.toNat.repr),
    ("limit", plan.window.limit.toNat.repr)]

def ofPlan (settings : Settings) (plan : Plan) : Request where
  path := "/rest/v1/" ++ settings.table
  parameters := parametersOf settings plan
  headers := [("Prefer", "count=exact")]

def writeParameter (parameter : String × String) : List Char :=
  parameter.1.toList ++ '=' :: Percent.encode parameter.2.toList

def queryString (r : Request) : String :=
  String.ofList (['&'].intercalate (r.parameters.map writeParameter))

def url (r : Request) (base : String) : String :=
  String.ofList (base.toList.reverse.dropWhile (· == '/')).reverse ++ r.path ++ "?" ++ r.queryString

end Request
end Postboard
