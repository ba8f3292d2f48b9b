import Postboard.Filter.CountTerm
import Postboard.Filter.Period
import Postboard.Filter.State

/-! From what a user asks for to clauses. A term that its category cannot read asks for nothing. -/
namespace Postboard

open Text

namespace SearchInput

def clauses (input : SearchInput) : List Clause :=
  let term := trim input.term.toList
  if term.isEmpty then []
  else
    let pattern := String.ofList term
    match input.category with
    | .all => [.either (.contains .text pattern) (.contains .username pattern)]
    | .username => [.only (.contains .username pattern)]
    | .text => [.only (.contains .text pattern)]
    | .date => ((Period.read? term).map Period.clauses).getD []
    | .likes => ((CountTerm.read? term).map (CountTerm.clauses .likes)).getD []
    | .retweets => ((CountTerm.read? term).map (CountTerm.clauses .retweets)).getD []

end SearchInput

namespace DateRange

def period (r : DateRange) : Period := .ofPickers (side r.lower) (side r.upper)

end DateRange

namespace Filters

def clauses (f : Filters) : List Clause :=
  f.inputs.flatMap SearchInput.clauses ++
  (f.sentiment.toList.map fun s => .only ⟨.sentiment, .eq, .text s.name⟩) ++
  f.dates.period.clauses

end Filters
end Postboard
