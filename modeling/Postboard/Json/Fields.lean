import Postboard.Json.Value

/-! Records in JSON. A record stands as an object with its fields in any order, or as an array of its
fields in their declared order. -/
namespace Postboard.Json

inductive Slot where
  | given (v : Value)
  | missing
  | cutOff

def findMember (names : List String) (members : List (Option String × Value)) : Option Slot :=
  match members.filter fun (name, _) => names.any (some · == name) with
  | [] => some .missing
  | [(_, v)] => some (.given v)
  | _ => none

def slots? (fields : List (List String)) : Value → Option (List Slot)
  | .object members =>
    if members.all (·.1.isSome) then fields.mapM (findMember · members) else none
  | .array items =>
    if items.length ≤ fields.length then
      some (items.map .given ++ List.replicate (fields.length - items.length) .cutOff)
    else none
  | _ => none

namespace Slot

def required (decode : Value → Option α) : Slot → Option α
  | given v => decode v
  | _ => none

def orElse (default : α) (decode : Value → Option α) : Slot → Option α
  | given v => decode v
  | _ => some default

def orMissing (default : α) (decode : Value → Option α) : Slot → Option α
  | given v => decode v
  | missing => some default
  | cutOff => none

end Slot

namespace Value

def string? : Value → Option String
  | string text => text
  | _ => none

def natural? : Value → Option UInt64
  | number n => n.natural?
  | _ => none

def bool? : Value → Option Bool
  | bool b => some b
  | _ => none

def option? (decode : Value → Option α) : Value → Option (Option α)
  | null => some none
  | v => (decode v).map some

def list? (decode : Value → Option α) : Value → Option (List α)
  | array items => items.mapM decode
  | _ => none

def caseName? : Value → Option String
  | string text => text
  | object [(name, null)] => name
  | _ => none

def heldCaseName? : Value → Option String
  | object [(name, object [])] => name
  | v => v.caseName?

end Value
end Postboard.Json
