import Postboard.Filter.Category
import Postboard.Sentiment

/-! What a user asks for: search terms, a sentiment, and two date pickers. -/
namespace Postboard

open Text

structure SearchInput where
  term : String := ""
  category : Category := .all
  deriving DecidableEq

structure DateRange where
  lower : Option String := none
  upper : Option String := none
  deriving DecidableEq

structure Filters where
  inputs : List SearchInput := []
  sentiment : Option Sentiment := none
  dates : DateRange := {}
  deriving DecidableEq

def DateRange.side (s : Option String) : List Char := trim ((s.getD "").toList)

def DateRange.isEmpty (r : DateRange) : Bool := (side r.lower).isEmpty && (side r.upper).isEmpty

namespace Filters

def search (term : String) (category : Category) : Filters := { inputs := [⟨term, category⟩] }

def isEmpty (f : Filters) : Bool :=
  f.inputs.all (fun input => (trim input.term.toList).isEmpty) && f.sentiment.isNone && f.dates.isEmpty

def describeInput (input : SearchInput) : String :=
  let term := String.ofList (trim input.term.toList)
  if term = "" then ""
  else match input.category with
    | .all => " for \"" ++ term ++ "\""
    | .text => " for tweet \"" ++ term ++ "\""
    | .username => " by user \"" ++ term ++ "\""
    | other => " where " ++ other.name ++ " is \"" ++ term ++ "\""

def describeSide (s : Option String) : String :=
  let side := DateRange.side s
  if side.isEmpty then "..." else String.ofList side

def describe (f : Filters) (shown : Nat) : String :=
  "Showing " ++ shown.repr ++ " tweets" ++ String.join (f.inputs.map describeInput) ++
  (match f.sentiment with
    | some s => " with sentiment " ++ s.name
    | none => "") ++
  (if f.dates.isEmpty then ""
    else " between " ++ describeSide f.dates.lower ++ " and " ++ describeSide f.dates.upper)

end Filters
end Postboard
