import Postboard.Command.Disk
import Postboard.Command.Report
import Postboard.Json.Writer
import Postboard.Pager
import Postboard.Plan.Json
import Postboard.Request
import Postboard.Snapshot.Container
import Postboard.Statistics

/-! The command that searches a snapshot: it prints the plan, the page that was asked for, and the
figures of the whole snapshot. -/
namespace Postboard.Command

open Gzip (Bytes)

namespace Query

structure Options where
  snapshot : String
  term : String
  category : String
  sentiment : Option String
  lower : Option String
  upper : Option String
  page : UInt64
  remote : Bool
  deriving DecidableEq

inductive Failure where
  | unreadable (path : String) (e : DiskError)
  | store (e : StoreError)
  | category (e : Category.Unknown)
  | sentiment (label : String)
  deriving DecidableEq

def Failure.message : Failure → String
  | unreadable path e => "无法读取快照 " ++ path ++ ": " ++ e.message
  | store e => e.message
  | category e => e.message
  | sentiment label => "未知的情感标签: " ++ label

def filters (o : Options) : Except Failure Filters := do
  let category ← (Category.read o.category).mapError .category
  let sentiment ← match o.sentiment with
    | none => pure none
    | some label =>
      match Sentiment.ofLabel? label with
      | some s => pure (some s)
      | none => throw (.sentiment label)
  return { inputs := [⟨o.term, category⟩], sentiment, dates := ⟨o.lower, o.upper⟩ }

def pager (store : Store) (f : Filters) (page : UInt64) : Pager :=
  let first := Pager.new ({} : Settings).perPage
  (first.withTotal (store.execute (f.plan first.window)).total).forward (page.toNat - 1)

def row (p : Post) : String :=
  let date := String.ofList (Spelling.monthFirst.write p.createdAt.date)
  let text := String.ofList (p.text.toList.map fun c => if c = '\n' then ' ' else c)
  let count (n : UInt64) : String := padRight 5 n.toNat.repr
  date ++ "  @" ++ padRight 20 p.username ++ " " ++ padLeft 8 (Sentiment.display p.sentiment) ++
  "  ❤ " ++ count p.likes ++ " 🔄 " ++ count p.retweets ++ " 💬 " ++ count p.replies ++ " " ++ text

def lines (o : Options) (store : Store) (f : Filters) : List String :=
  let pager := pager store f o.page
  let plan := f.plan pager.window
  let page := store.execute plan
  let statistics := Statistics.ofPosts store.posts
  (if o.remote then (Request.ofPlan {} plan).queryString else String.ofList (plan.toJson.pretty 0)) ::
  (f.describe page.posts.length ++ " | " ++ pager.label) ::
  page.posts.map row ++
  (if page.posts.isEmpty then ["No tweets found"] else []) ++
  ["快照共 " ++ statistics.posts.repr ++ " 条推文，平均情感 " ++ statistics.average.write]

def answer (o : Options) (content : Except DiskError Bytes) : Except Failure (List String) := do
  let bytes ← content.mapError (.unreadable o.snapshot)
  let store ← (Store.ofSnapshot bytes).mapError .store
  return lines o store (← filters o)

def run [Monad m] (disk : Disk m) (o : Options) : m Report := do
  match answer o (← disk.read o.snapshot) with
  | .ok out => return { out }
  | .error e => return .failed [] e.message

end Query
end Postboard.Command
