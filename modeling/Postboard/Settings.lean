import Postboard.Json.Fields
import Postboard.Json.Reader
import Postboard.Text.Blank

/-! The settings of a board: which table it reads, which columns, and how many posts a page has. -/
namespace Postboard

open Json

structure Settings where
  table : String := "nrm_tweets_kb"
  select : String := "*"
  perPage : UInt64 := 20
  deriving DecidableEq

namespace Settings

inductive Error where
  | unreadable
  deriving DecidableEq

def Error.message : Error → String
  | unreadable => "解析配置失败"

def ofJson? (v : Value) : Option Settings := do
  match ← slots? [["table"], ["select"], ["items_per_page"]] v with
  | [table, select, perPage] =>
    let settings : Settings := {}
    return {
      table := ← table.orElse settings.table Value.string?
      select := ← select.orElse settings.select Value.string?
      perPage := ← perPage.orElse settings.perPage Value.natural? }
  | _ => none

def read (text : String) : Except Error Settings :=
  if (Text.trim text.toList).isEmpty then .ok {}
  else match (Value.parse? text).bind ofJson? with
    | some settings => .ok { settings with perPage := max settings.perPage 1 }
    | none => .error .unreadable

end Settings
end Postboard
