import Postboard.Clause.Json
import Postboard.Plan

/-! Plans in JSON. -/
namespace Postboard

open Json

namespace SortKey

def toJson (k : SortKey) : Value :=
  .record [("field", .ofString k.field.column), ("descending", .bool k.descending)]

def ofJson? (v : Value) : Option SortKey := do
  match ← slots? [["field"], ["descending"]] v with
  | [field, descending] =>
    return {
      field := ← field.required fun v => v.caseName?.bind Field.ofColumn?
      descending := ← descending.required Value.bool? }
  | _ => none

end SortKey

namespace Window

def toJson (w : Window) : Value :=
  .record [("offset", .ofNat w.offset.toNat), ("limit", .ofNat w.limit.toNat)]

def ofJson? (v : Value) : Option Window := do
  match ← slots? [["offset"], ["limit"]] v with
  | [offset, limit] =>
    return { offset := ← offset.required Value.natural?, limit := ← limit.required Value.natural? }
  | _ => none

end Window

namespace Plan

def toJson (p : Plan) : Value := .record [
  ("clauses", .array (p.clauses.map Clause.toJson)),
  ("sort", p.sort.toJson),
  ("window", p.window.toJson)]

/-- Two of the document's arrays and objects stand around each clause. -/
def ofJson? (v : Value) : Option Plan := do
  match ← slots? [["clauses"], ["sort"], ["window"]] v with
  | [clauses, sort, window] =>
    return {
      clauses := ← clauses.required (Value.list? (Clause.ofJson? (Clause.documentRoom - 2)))
      sort := ← sort.required SortKey.ofJson?
      window := ← window.required Window.ofJson? }
  | _ => none

end Plan
end Postboard
