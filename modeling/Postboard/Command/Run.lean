import Postboard.Board
import Postboard.Command.Arguments
import Postboard.Command.Build
import Postboard.Command.Query

/-! The command line: which command its arguments ask for, and carrying it out. -/
namespace Postboard.Command

inductive Topic where
  | all
  | build
  | query
  | help
  deriving DecidableEq

inductive Task where
  | build (o : Build.Options)
  | query (o : Query.Options)
  | version
  | help (topic : Topic)
  deriving DecidableEq

def title : String := "推文快照工具"

def about : Topic → String
  | .all => "生成推文快照并离线执行仪表盘查询"
  | .build => "从 JSON 导出文件生成压缩快照"
  | .query => "在快照上执行筛选查询"
  | .help => "Print this message or the help of the given subcommand(s)"

def readPage? (s : String) : Option UInt64 :=
  match s.toList with
  | '+' :: digits => CountTerm.readCount? digits
  | digits => CountTerm.readCount? digits

def buildFlags : List Flag := [
  { name := "input", letter := some 'i', value := some "INPUT", required := true,
    help := "JSON 文件或包含 JSON 文件的目录" },
  { name := "output", letter := some 'o', value := some "OUTPUT_FILE", required := true, help := "快照输出路径" },
  { name := "verbose", letter := some 'v', help := "显示详细信息" }]

def queryFlags : List Flag := [
  { name := "snapshot", letter := some 's', value := some "SNAPSHOT_FILE", required := true, help := "快照文件路径" },
  { name := "term", letter := some 't', value := some "TERM",
    help := "筛选词，例如 10-100、>=50、2024-03-01 to 2024-03-03" },
  { name := "category", letter := some 'c', value := some "CATEGORY", default := some "all",
    help := "筛选类别: all, username, date, likes, retweets, text" },
  { name := "sentiment", value := some "LABEL", help := "情感筛选: Positive, Neutral, Negative" },
  { name := "from", value := some "DATE", help := "开始日期" },
  { name := "to", value := some "DATE", help := "结束日期（包含当天）" },
  { name := "page", letter := some 'p', value := some "PAGE", default := some "1", help := "页码",
    accepts := fun s => (readPage? s).isSome },
  { name := "postgrest", help := "输出对应的 PostgREST 查询字符串" }]

def readBuild (arguments : List String) : Except Stop Task := do
  let v ← readArguments buildFlags arguments
  return .build { input := v.get "input", output := v.get "output", verbose := v.has "verbose" }

def readQuery (arguments : List String) : Except Stop Task := do
  let v ← readArguments queryFlags arguments
  return .query {
    snapshot := v.get "snapshot"
    term := v.get "term"
    category := v.get "category"
    sentiment := v.get? "sentiment"
    lower := v.get? "from"
    upper := v.get? "to"
    page := (readPage? (v.get "page")).getD 1
    remote := v.has "postgrest" }

def withHelp (topic : Topic) : Except Stop Task → Except Stop Task
  | .error .help => .ok (.help topic)
  | other => other

def read : List String → Except Stop Task
  | "build" :: rest => withHelp .build (readBuild rest)
  | "query" :: rest => withHelp .query (readQuery rest)
  | ["help"] => .ok (.help .all)
  | ["help", "build"] => .ok (.help .build)
  | ["help", "query"] => .ok (.help .query)
  | ["help", "help"] => .ok (.help .help)
  | first :: _ =>
    if first = "--help" ∨ first.startsWith "-h" then .ok (.help .all)
    else if first = "--version" ∨ first.startsWith "-V" then .ok .version
    else .error .misuse
  | [] => .error .misuse

def usage (program : String) : Topic → String
  | .all => "Usage: " ++ program ++ " <COMMAND>"
  | .build => "Usage: " ++ program ++ " build [OPTIONS] --input <INPUT> --output <OUTPUT_FILE>"
  | .query => "Usage: " ++ program ++ " query [OPTIONS] --snapshot <SNAPSHOT_FILE>"
  | .help => "Usage: " ++ program ++ " help [COMMAND]..."

def help (program : String) (topic : Topic) : List String :=
  [about topic, "", usage program topic, ""] ++
  match topic with
  | .all =>
    "Commands:" :: columns [("build", about .build), ("query", about .query), ("help", about .help)] ++
    ["", "Options:"] ++ columns [("-h, --help", "Print help"), ("-V, --version", "Print version")]
  | .build => "Options:" :: columns (helpRows buildFlags)
  | .query => "Options:" :: columns (helpRows queryFlags)
  | .help => "Arguments:" :: columns [("[COMMAND]...", "Print help for the subcommand(s)")]

def run [Monad m] (disk : Disk m) (now : Instant) (program : String) (arguments : List String) : m Report := do
  match read arguments with
  | .ok (.build o) => Build.run disk now o
  | .ok (.query o) => Query.run disk o
  | .ok .version => return { out := [title ++ " " ++ Board.version] }
  | .ok (.help topic) => return { out := help program topic }
  | .error _ => return .misuse (usage program .all)

end Postboard.Command
