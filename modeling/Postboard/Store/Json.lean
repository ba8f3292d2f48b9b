import Postboard.Post.Json
import Postboard.Store

/-! Pages in JSON, as the remote table service sends them. -/
namespace Postboard.Page

open Json

def toJson (p : Page) : Value :=
  .record [("records", .array (p.posts.map Post.toJson)), ("total_count", .ofNat p.total.toNat)]

def fieldNames : List (List String) := [["records"], ["total_count", "totalCount", "count"]]

def ofJson? (v : Value) : Option Page := do
  match ← slots? fieldNames v with
  | [posts, total] =>
    return { posts := ← posts.orElse [] (Value.list? Post.ofJson?), total := ← total.orElse 0 Value.natural? }
  | _ => none

end Postboard.Page
