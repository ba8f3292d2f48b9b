import Postboard.Clause
import Postboard.Text.Blank
import Postboard.Text.Decimal

/-! Terms about a counter: a range such as 10-100, or a comparison such as >=50. -/
namespace Postboard

open Text

inductive CountTerm where
  | range (low high : Option UInt64)
  | compare (operator : Operator) (n : UInt64)
  deriving DecidableEq

namespace CountTerm

def readCount? (digits : List Char) : Option UInt64 :=
  let n := decimalValue digits
  if ¬digits.isEmpty ∧ digits.all isAsciiDigit ∧ n < UInt64.size then some (UInt64.ofNat n) else none

def sides? (s : List Char) : Option (List Char × List Char) :=
  let low := s.takeWhile isDecimalDigit
  match s.dropWhile isDecimalDigit with
  | '-' :: high =>
    if ¬low.isEmpty ∧ ¬high.isEmpty ∧ high.all isDecimalDigit then some (low, high) else none
  | _ => none

def splitOperator : List Char → Operator × List Char
  | '>' :: '=' :: r => (.gte, r)
  | '<' :: '=' :: r => (.lte, r)
  | '>' :: r => (.gt, r)
  | '<' :: r => (.lt, r)
  | '=' :: r => (.eq, r)
  | r => (.eq, r)

def read? (term : List Char) : Option CountTerm :=
  let s := dropBlanks term
  match sides? s with
  | some (low, high) =>
    let low := readCount? low
    let high := readCount? high
    if low.isNone && high.isNone then none else some (range low high)
  | none =>
    let (operator, digits) := splitOperator s
    (readCount? digits).map (compare operator)

def clauses (field : Field) : CountTerm → List Clause
  | range low high =>
    (low.toList.map fun n => .only (.count field .gte n)) ++ (high.toList.map fun n => .only (.count field .lte n))
  | compare operator n => [.only (.count field operator n)]

end CountTerm
end Postboard
