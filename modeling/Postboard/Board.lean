import Postboard.Filter.Json
import Postboard.Request
import Postboard.Session

/-! A board as a host page drives it: a session with the settings of its remote table. Everything that
comes from the page is text. -/
namespace Postboard

structure Board where
  settings : Settings := {}
  session : Session := {}

namespace Board

inductive Error where
  | category (e : Category.Unknown)
  | filters
  deriving DecidableEq

def version : String := "0.1.0"

def read (text : String) : Except Settings.Error Board :=
  match Settings.read text with
  | .ok settings => .ok { settings, session := .new settings }
  | .error e => .error e

def keep (b : Board) (change : Session × α) : Board × α := ({ b with session := change.1 }, change.2)

def setSearch (b : Board) (term category : String) : Except Error (Board × Bool) :=
  match Category.read category with
  | .ok category => .ok (b.keep (b.session.setSearch term category))
  | .error e => .error (.category e)

def setFilters (b : Board) (text : String) : Except Error (Board × Bool) :=
  match (Json.Value.parse? text).bind Filters.ofJson? with
  | some filters => .ok (b.keep (b.session.setFilters filters))
  | none => .error .filters

def setSentiment (b : Board) (label : Option String) : Board × Bool :=
  b.keep (b.session.setSentiment (label.bind Sentiment.ofLabel?))

def setDates (b : Board) (lower upper : Option String) : Board × Bool :=
  b.keep (b.session.setDates lower upper)

def clearFilters (b : Board) : Board := { b with session := b.session.clearFilters }

def nextPage (b : Board) : Board := { b with session := b.session.nextPage }

def previousPage (b : Board) : Board := { b with session := b.session.previousPage }

def requestUrl (b : Board) (base : String) : String := (Request.ofPlan b.settings b.session.plan).url base

end Board
end Postboard
