import Postboard.Snapshot.Container
import Postboard.Statistics
import Std.Data.HashMap

/-! Collecting posts for a snapshot. Of two posts with one id the later one counts, in the place of the
earlier one. -/
namespace Postboard

structure Collector where
  posts : Array Post := #[]
  places : Std.HashMap String Nat := ∅

namespace Collector

inductive Error where
  | empty
  | container (e : Container.Error)
  deriving DecidableEq

def Error.message : Error → String
  | empty => "无法构建快照: 没有推文数据"
  | container e => "压缩快照失败: " ++ e.message

def add (c : Collector) (p : Post) : Collector :=
  match c.places[p.id]? with
  | some place => { c with posts := c.posts.setIfInBounds place p }
  | none => { posts := c.posts.push p, places := c.places.insert p.id c.posts.size }

def addAll (c : Collector) (posts : List Post) : Collector := posts.foldl add c

def size (c : Collector) : Nat := c.posts.size

def isEmpty (c : Collector) : Bool := c.posts.isEmpty

def statistics (c : Collector) : Statistics := .ofPosts c.posts.toList

def newestFirst (a b : Post) : Ordering := (compare b.createdAt a.createdAt).then (compare a.id b.id)

def build (c : Collector) (now : Instant) : Except Error Snapshot :=
  if c.isEmpty then .error .empty
  else
    let posts := c.posts.toList.mergeSort fun a b => (newestFirst a b).isLE
    let version := Container.current
    .ok {
      metadata := {
        count := UInt64.ofNat posts.length
        createdAt := now
        earliest := posts.getLast?.map (·.createdAt)
        latest := posts.head?.map (·.createdAt)
        version := version.major.toNat.repr ++ "." ++ version.minor.toNat.repr }
      posts }

def toBytes (c : Collector) (now : Instant) : Except Error Gzip.Bytes :=
  match c.build now with
  | .ok snapshot => (Container.writeSnapshot snapshot).mapError .container
  | .error e => .error e

end Collector
end Postboard
