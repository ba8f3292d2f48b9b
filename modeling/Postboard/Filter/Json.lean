import Postboard.Filter.State
import Postboard.Post.Json

/-! Filters in JSON. -/
namespace Postboard

open Json

namespace Category

def toJson (c : Category) : Value := .ofString c.name

def ofJson? (v : Value) : Option Category := v.caseName?.bind ofName?

end Category

namespace SearchInput

def toJson (i : SearchInput) : Value := .record [("term", .ofString i.term), ("category", i.category.toJson)]

def ofJson? (v : Value) : Option SearchInput := do
  match ← slots? [["term"], ["category"]] v with
  | [term, category] =>
    return { term := ← term.orElse "" Value.string?, category := ← category.orElse .all Category.ofJson? }
  | _ => none

end SearchInput

namespace DateRange

def toJson (r : DateRange) : Value :=
  .record [("from", .ofOption .ofString r.lower), ("to", .ofOption .ofString r.upper)]

def ofJson? (v : Value) : Option DateRange := do
  match ← slots? [["from"], ["to"]] v with
  | [lower, upper] =>
    return {
      lower := ← lower.orElse none (Value.option? Value.string?)
      upper := ← upper.orElse none (Value.option? Value.string?) }
  | _ => none

end DateRange

namespace Filters

def toJson (f : Filters) : Value := .record [
  ("inputs", .array (f.inputs.map SearchInput.toJson)),
  ("sentiment", .ofOption Sentiment.toJson f.sentiment),
  ("date_range", f.dates.toJson)]

def ofJson? (v : Value) : Option Filters := do
  match ← slots? [["inputs"], ["sentiment"], ["date_range"]] v with
  | [inputs, sentiment, dates] =>
    return {
      inputs := ← inputs.orElse [] (Value.list? SearchInput.ofJson?)
      sentiment := ← sentiment.orElse none (Value.option? Sentiment.ofJson?)
      dates := ← dates.orElse {} DateRange.ofJson? }
  | _ => none

end Filters
end Postboard
