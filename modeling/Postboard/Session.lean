import Postboard.Pager
import Postboard.Settings
import Postboard.Store
import Postboard.Store.Error

/-! The session of one viewer: what is asked for, which page, and what came back. Every fetch has a
sequence number, higher than those before it. A response counts only if it answers the latest fetch;
one that comes late is dropped. -/
namespace Postboard

inductive Status where
  | idle
  | loading
  | loaded
  | empty
  | failed (message : String)
  deriving DecidableEq

inductive Outcome where
  | applied
  | failed
  | stale
  deriving DecidableEq

structure Fetch where
  sequence : UInt64
  plan : Plan
  deriving DecidableEq

abbrev Response := Except StoreError Page

abbrev Source := Plan → Response

structure Session where
  filters : Filters := {}
  pager : Pager := {}
  latest : UInt64 := 0
  posts : List Post := []
  total : UInt64 := 0
  status : Status := .idle
  deriving DecidableEq

inductive Notice where
  | loaded (shown : Nat) (total : UInt64)
  | snapshotLoaded (posts : Nat)
  | lateResponse (sequence latest : UInt64)
  | fetchFailed (error : StoreError)
  deriving DecidableEq

structure Delivery where
  session : Session
  outcome : Outcome
  notices : List Notice
  deriving DecidableEq

namespace Notice

def isWarning : Notice → Bool
  | loaded .. | snapshotLoaded .. => false
  | lateResponse .. | fetchFailed .. => true

def line : Notice → String
  | loaded shown total => "已加载 " ++ shown.repr ++ " 条推文，共 " ++ total.toNat.repr ++ " 条"
  | snapshotLoaded posts => "快照已加载，推文数量: " ++ posts.repr
  | lateResponse sequence latest =>
    "警告: 丢弃过期响应: 序号 " ++ sequence.toNat.repr ++ "，最新序号 " ++ latest.toNat.repr
  | fetchFailed error => "警告: 获取推文失败: " ++ error.message

end Notice

def Store.source (store : Store) : Source := fun plan => .ok (store.execute plan)

namespace Session

def new (settings : Settings) : Session := { pager := .new settings.perPage }

def setFilters (s : Session) (filters : Filters) : Session × Bool :=
  if filters = s.filters then (s, false) else ({ s with filters, pager := s.pager.reset }, true)

def setInputs (s : Session) (inputs : List SearchInput) : Session × Bool :=
  s.setFilters { s.filters with inputs }

def setSearch (s : Session) (term : String) (category : Category) : Session × Bool :=
  s.setInputs [⟨term, category⟩]

def setSentiment (s : Session) (sentiment : Option Sentiment) : Session × Bool :=
  s.setFilters { s.filters with sentiment }

def setDates (s : Session) (lower upper : Option String) : Session × Bool :=
  s.setFilters { s.filters with dates := ⟨lower, upper⟩ }

def clearFilters (s : Session) : Session := { s with filters := {}, pager := s.pager.reset }

def nextPage (s : Session) : Session := { s with pager := s.pager.next }

def previousPage (s : Session) : Session := { s with pager := s.pager.previous }

def plan (s : Session) : Plan := s.filters.plan s.pager.window

def issue (s : Session) : Session × Fetch :=
  let s := { s with latest := s.latest + 1, status := .loading }
  (s, ⟨s.latest, s.plan⟩)

def complete (s : Session) (sequence : UInt64) (response : Response) : Delivery :=
  if sequence ≠ s.latest then ⟨s, .stale, [.lateResponse sequence s.latest]⟩
  else match response with
    | .ok page =>
      let status := if page.posts.isEmpty then .empty else .loaded
      ⟨{ s with pager := s.pager.withTotal page.total, posts := page.posts, total := page.total, status },
        .applied, []⟩
    | .error e => ⟨{ s with status := .failed e.message }, .failed, [.fetchFailed e]⟩

def refresh (s : Session) (source : Source) : Delivery :=
  let (s, fetch) := s.issue
  let d := s.complete fetch.sequence (source fetch.plan)
  if d.outcome = .applied then
    { d with notices := d.notices ++ [.loaded d.session.posts.length d.session.total] }
  else d

def headline (s : Session) : String := s.filters.describe s.posts.length

end Session
end Postboard
