import Postboard.Session

/-! What happens to a session, one action after another: the viewer changes the filters or the page,
fetches are sent, and responses come in, late or more than once or never. -/
namespace Postboard.Session

inductive Action where
  | setFilters (filters : Filters)
  | setInputs (inputs : List SearchInput)
  | setSearch (term : String) (category : Category)
  | setSentiment (sentiment : Option Sentiment)
  | setDates (lower upper : Option String)
  | clearFilters
  | nextPage
  | previousPage
  | issue
  | complete (sequence : UInt64) (response : Response)
  | refresh (source : Source)

inductive Reply where
  | done
  | changed (b : Bool)
  | sent (fetch : Fetch)
  | delivered (outcome : Outcome) (notices : List Notice)
  deriving DecidableEq

def changedReply (change : Session × Bool) : Session × Reply := (change.1, .changed change.2)

def deliveredReply (d : Delivery) : Session × Reply := (d.session, .delivered d.outcome d.notices)

def act (s : Session) : Action → Session × Reply
  | .setFilters filters => changedReply (s.setFilters filters)
  | .setInputs inputs => changedReply (s.setInputs inputs)
  | .setSearch term category => changedReply (s.setSearch term category)
  | .setSentiment sentiment => changedReply (s.setSentiment sentiment)
  | .setDates lower upper => changedReply (s.setDates lower upper)
  | .clearFilters => (s.clearFilters, .done)
  | .nextPage => (s.nextPage, .done)
  | .previousPage => (s.previousPage, .done)
  | .issue => (s.issue.1, .sent s.issue.2)
  | .complete sequence response => deliveredReply (s.complete sequence response)
  | .refresh source => deliveredReply (s.refresh source)

def run (s : Session) : List Action → Session × List Reply
  | [] => (s, [])
  | action :: rest =>
    let (next, reply) := s.act action
    let (last, replies) := run next rest
    (last, reply :: replies)

theorem runAppend (s : Session) (before after : List Action) :
    s.run (before ++ after) =
      (((s.run before).1.run after).1, (s.run before).2 ++ ((s.run before).1.run after).2) := by
  induction before generalizing s with
  | nil => simp [run]
  | cons action rest ih => simp [run, ih]

theorem runLength (s : Session) (actions : List Action) : (s.run actions).2.length = actions.length := by
  induction actions generalizing s with
  | nil => rfl
  | cons action rest ih => simp [run, ih]

end Postboard.Session
