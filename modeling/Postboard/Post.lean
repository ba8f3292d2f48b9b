import Postboard.Sentiment
import Postboard.Time.Instant

/-! A post and the counters that its readers moved. -/
namespace Postboard

structure Post where
  id : String
  text : String
  username : String
  url : Option String := none
  likes : UInt64 := 0
  replies : UInt64 := 0
  retweets : UInt64 := 0
  sentiment : Option Sentiment := none
  createdAt : Instant
  district : Option String := none
  deriving DecidableEq

end Postboard
