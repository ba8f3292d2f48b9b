import Postboard.Filter.Json
import Postboard.Session
import Postboard.Store.Json

/-! What a page needs to show a session, and its form in JSON. -/
namespace Postboard

open Json

def Status.name : Status → String
  | idle => "idle"
  | loading => "loading"
  | loaded => "loaded"
  | empty => "empty"
  | failed _ => "failed"

def Status.toJson (s : Status) : Value :=
  .record (("status", .ofString s.name) ::
    (match s with
      | failed message => [("message", .ofString message)]
      | _ => []))

namespace Outcome

def name : Outcome → String
  | applied => "applied"
  | failed => "failed"
  | stale => "stale"

def ofName? (s : String) : Option Outcome := [applied, failed, stale].find? (·.name = s)

def toJson (o : Outcome) : Value := .ofString o.name

def ofJson? (v : Value) : Option Outcome := v.caseName?.bind ofName?

end Outcome

def Session.view (s : Session) : Value := .record [
  ("filters", s.filters.toJson),
  ("pagination", s.pager.toJson),
  ("records", .array (s.posts.map Post.toJson)),
  ("total_count", .ofNat s.total.toNat),
  ("status", s.status.toJson),
  ("headline", .ofString s.headline),
  ("page_label", .ofString s.pager.label),
  ("has_previous", .bool s.pager.hasPrevious),
  ("has_next", .bool s.pager.hasNext),
  ("shows_controls", .bool s.pager.showsControls)]

end Postboard
