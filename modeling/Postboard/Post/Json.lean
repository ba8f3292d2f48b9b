import Postboard.Post
import Postboard.Time.Json

/-! Posts in JSON. -/
namespace Postboard

open Json

namespace Sentiment

def toJson (s : Sentiment) : Value := .ofString s.name

def ofJson? (v : Value) : Option Sentiment := v.caseName?.bind ofName?

end Sentiment

namespace Post

def toJson (p : Post) : Value := .record [
  ("id", .ofString p.id),
  ("text", .ofString p.text),
  ("username", .ofString p.username),
  ("url", .ofOption .ofString p.url),
  ("like_count", .ofNat p.likes.toNat),
  ("reply_count", .ofNat p.replies.toNat),
  ("retweet_count", .ofNat p.retweets.toNat),
  ("sentiment_score", .ofOption Sentiment.toJson p.sentiment),
  ("created_at", p.createdAt.toJson),
  ("district", .ofOption .ofString p.district)]

def integerText (n : Int) : String := if n < 0 then "-" ++ n.natAbs.repr else n.natAbs.repr

def idOfJson? : Value → Option String
  | .string text => text
  | .number n => n.integer?.map integerText
  | _ => none

def sentimentOfJson? (v : Value) : Option (Option Sentiment) :=
  (v.option? Value.string?).map (·.bind Sentiment.ofLabel?)

def fieldNames : List (List String) :=
  [["id"], ["text"], ["username"], ["url"], ["like_count"], ["reply_count"], ["retweet_count"],
    ["sentiment_score"], ["created_at"], ["district"]]

def ofJson? (v : Value) : Option Post := do
  match ← slots? fieldNames v with
  | [id, text, username, url, likes, replies, retweets, sentiment, createdAt, district] =>
    return {
      id := ← id.required idOfJson?
      text := ← text.required Value.string?
      username := ← username.required Value.string?
      url := ← url.orElse none (Value.option? Value.string?)
      likes := ← likes.orElse 0 Value.natural?
      replies := ← replies.orElse 0 Value.natural?
      retweets := ← retweets.orElse 0 Value.natural?
      sentiment := ← sentiment.orElse none sentimentOfJson?
      createdAt := ← createdAt.required Instant.ofJson?
      district := ← district.orElse none (Value.option? Value.string?) }
  | _ => none

end Post
end Postboard
