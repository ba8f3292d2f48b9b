import Postboard.Text.Blank

/-! The category of a search term: which grammar reads it and which fields it is about. -/
namespace Postboard

inductive Category where
  | all
  | username
  | date
  | likes
  | retweets
  | text
  deriving DecidableEq

namespace Category

def name : Category → String
  | all => "all"
  | username => "username"
  | date => "date"
  | likes => "likes"
  | retweets => "retweets"
  | text => "text"

def every : List Category := [all, username, date, likes, retweets, text]

def ofName? (s : String) : Option Category := every.find? (·.name = s)

structure Unknown where
  asked : String
  deriving DecidableEq

def Unknown.message (e : Unknown) : String := "未知的筛选类别: " ++ e.asked

def read (s : String) : Except Unknown Category :=
  let asked := String.ofList ((Text.trim s.toList).map Char.toLower)
  if asked = "" then .ok all
  else if asked = "user" then .ok username
  else if asked = "tweet" then .ok text
  else match ofName? asked with
    | some category => .ok category
    | none => .error ⟨asked⟩

theorem ofNameName (c : Category) : ofName? c.name = some c := by
  cases c <;> decide

end Category
end Postboard
