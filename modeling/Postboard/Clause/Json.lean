import Postboard.Clause
import Postboard.Time.Json

/-! Clauses in JSON. A clause is taken whole before it is looked at, so all of it must be sound, and
its arrays and objects may not stand too deep in one another. -/
namespace Postboard

open Json

def Operand.toJson : Operand → Value
  | text s => .record [("type", .ofString "text"), ("value", .ofString s)]
  | integer n => .record [("type", .ofString "integer"), ("value", .ofNat n.toNat)]
  | timestamp t => .record [("type", .ofString "timestamp"), ("value", t.toJson)]

def Operand.types : List String := ["text", "integer", "timestamp"]

def Operand.ofTyped? (type : String) (value : Value) : Option Operand := do
  match type with
  | "text" => return text (← value.string?)
  | "integer" => return integer (← value.natural?)
  | "timestamp" => return timestamp (← Instant.ofJson? value)
  | _ => none

def Operand.placedType? : Value → Option String
  | .number n => do types[(← n.natural?).toNat]?
  | v => v.string?

def Operand.ofJson? : Value → Option Operand
  | .array [type, value] => do ofTyped? (← placedType? type) value
  | .array _ => none
  | v => do
    match ← slots? [["type"], ["value"]] v with
    | [type, value] => ofTyped? (← type.required Value.heldCaseName?) (← value.required some)
    | _ => none

namespace Comparison

def members (c : Comparison) : List (String × Value) :=
  [("field", .ofString c.field.column), ("operator", .ofString c.operator.name), ("value", c.operand.toJson)]

def toJson (c : Comparison) : Value := .record c.members

def ofJson? (v : Value) : Option Comparison := do
  match ← slots? [["field"], ["operator"], ["value"]] v with
  | [field, operator, operand] =>
    return {
      field := ← field.required fun v => v.heldCaseName?.bind Field.ofColumn?
      operator := ← operator.required fun v => v.heldCaseName?.bind Operator.ofName?
      operand := ← operand.required Operand.ofJson? }
  | _ => none

end Comparison

namespace Clause

def toJson : Clause → Value
  | only c => .record (("kind", .ofString "match") :: c.members)
  | either left right =>
    .record [("kind", .ofString "or"), ("left", left.toJson), ("right", right.toJson)]

def kind? : Value → Option (String × Value)
  | .object members => do
    match ← findMember ["kind"] members with
    | .given v => return (← v.string?, .object (members.filter fun (name, _) => name != some "kind"))
    | _ => none
  | .array (v :: rest) => do return (← v.string?, .array rest)
  | _ => none

def ofJson? (room : Nat) (v : Value) : Option Clause := do
  if v.fits room then
    match ← kind? v with
    | ("match", rest) => return only (← Comparison.ofJson? rest)
    | ("or", rest) =>
      match ← slots? [["left"], ["right"]] rest with
      | [left, right] =>
        return either (← left.required Comparison.ofJson?) (← right.required Comparison.ofJson?)
      | _ => none
    | _ => none
  else none

def documentRoom : Nat := 127

end Clause
end Postboard
