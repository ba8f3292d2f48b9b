import Postboard.Post

/-! Snapshots: posts that were gathered at one time, with what is known of them as a whole. -/
namespace Postboard

structure Metadata where
  count : UInt64
  createdAt : Instant
  earliest : Option Instant
  latest : Option Instant
  version : String
  deriving DecidableEq

structure Snapshot where
  metadata : Metadata
  posts : List Post
  deriving DecidableEq

end Postboard
