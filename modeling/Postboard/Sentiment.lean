import Postboard.Text.Blank

/-! The sentiment of a post, as its author's tone was labelled. -/
namespace Postboard

inductive Sentiment where
  | positive
  | neutral
  | negative
  deriving DecidableEq

namespace Sentiment

def name : Sentiment → String
  | positive => "Positive"
  | neutral => "Neutral"
  | negative => "Negative"

def ofName? (s : String) : Option Sentiment :=
  [positive, neutral, negative].find? (·.name = s)

def ofLabel? (label : String) : Option Sentiment :=
  let label := Text.trim label.toList
  if label = "Positive".toList ∨ label = "positive".toList then some positive
  else if label = "Neutral".toList ∨ label = "neutral".toList then some neutral
  else if label = "Negative".toList ∨ label = "negative".toList then some negative
  else none

def score : Sentiment → Int
  | positive => 1
  | neutral => 0
  | negative => -1

def display : Option Sentiment → String
  | some s => s.name
  | none => "N/A"

theorem ofNameName (s : Sentiment) : ofName? s.name = some s := by
  cases s <;> decide

theorem ofLabelName (s : Sentiment) : ofLabel? s.name = some s := by
  cases s <;> decide

end Sentiment
end Postboard
