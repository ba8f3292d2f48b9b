import Postboard.Collector
import Postboard.Command.Disk
import Postboard.Command.Report
import Postboard.Json.Reader
import Postboard.Post.Json

/-! The command that makes a snapshot of exported posts: of one file, or of all JSON files below a
directory in the order of their paths. -/
namespace Postboard.Command

open Gzip (Bytes)

namespace Build

structure Options where
  input : String
  output : String
  verbose : Bool
  deriving DecidableEq

inductive Failure where
  | noInput (path : String)
  | unreadable (path : String) (e : DiskError)
  | notText (path : String)
  | malformed (path : String)
  | noPosts
  | unwritable (path : String) (e : DiskError)
  | snapshot (e : Collector.Error)
  deriving DecidableEq

def Failure.message : Failure → String
  | noInput path => "输入路径不存在: " ++ path
  | unreadable path e => "无法读取文件 " ++ path ++ ": " ++ e.message
  | notText path => "无法读取文件 " ++ path ++ ": stream did not contain valid UTF-8"
  | malformed path => "解析 " ++ path ++ " 失败"
  | noPosts => "没有找到有效推文"
  | unwritable path e => "无法写入快照文件 " ++ path ++ ": " ++ e.message
  | snapshot e => e.message

def isJsonPath (path : String) : Bool :=
  let name := (path.toList.reverse.takeWhile (· != '/')).reverse
  let stem := name.length - 5
  0 < stem && name.drop stem == ".json".toList

def sortPaths (paths : List String) : List String := paths.mergeSort fun a b => (compare a b).isLE

def readPosts (path : String) (content : Except DiskError Bytes) : Except Failure (List Post) :=
  match content with
  | .error e => .error (.unreadable path e)
  | .ok bytes =>
    match String.fromUTF8? bytes.toByteArray with
    | none => .error (.notText path)
    | some text =>
      match (Json.Value.parse? text).bind (Json.Value.list? Post.ofJson?) with
      | some posts => .ok posts
      | none => .error (.malformed path)

def collect (verbose : Bool) (c : Collector) :
    List (String × Except DiskError Bytes) → List String × Except Failure Collector
  | [] => ([], .ok c)
  | (path, content) :: rest =>
    match readPosts path content with
    | .error e => ([], .error e)
    | .ok posts =>
      let (lines, result) := collect verbose (c.addAll posts) rest
      let line := "读取 " ++ path ++ ": " ++ posts.length.repr ++ " 条推文"
      (if verbose then line :: lines else lines, result)

def started (o : Options) : String := "开始读取推文数据: " ++ o.input

def finished (files : Nat) (c : Collector) : String :=
  "读取完成。" ++ files.repr ++ " 个文件，" ++ c.size.repr ++ " 条推文。"

def summary (o : Options) (size : Nat) (s : Statistics) : List String := [
  "快照已写入 " ++ o.output ++ "，大小: " ++ size.repr ++ " 字节",
  "用户: " ++ s.users.repr ++ "，地区: " ++ s.districts.repr ++ "，平均情感: " ++ s.average.write,
  "情感分布: 正面 " ++ s.distribution.positive.repr ++ " / 中性 " ++ s.distribution.neutral.repr ++
    " / 负面 " ++ s.distribution.negative.repr ++ " / 未标注 " ++ s.distribution.unlabeled.repr]

variable {m : Type → Type} [Monad m]

def inputs (disk : Disk m) (input : String) : m (Option (List String)) := do
  match ← disk.kind input with
  | .file => return some [input]
  | .directory => return some (sortPaths ((← disk.walk input).filter isJsonPath))
  | .missing => return none

def run (disk : Disk m) (now : Instant) (o : Options) : m Report := do
  match ← inputs disk o.input with
  | none => return .failed [started o] (Failure.noInput o.input).message
  | some paths =>
    let contents ← paths.mapM fun path => do return (path, ← disk.read path)
    match collect o.verbose {} contents with
    | (lines, .error e) => return .failed (started o :: lines) e.message
    | (lines, .ok c) =>
      let lines := started o :: lines ++ [finished paths.length c]
      if c.isEmpty then return .failed lines Failure.noPosts.message
      else
        match c.toBytes now with
        | .error e => return .failed lines (Failure.snapshot e).message
        | .ok bytes =>
          match ← disk.write o.output bytes with
          | .error e => return .failed lines (Failure.unwritable o.output e).message
          | .ok () => return { out := lines ++ summary o bytes.length c.statistics }

end Build
end Postboard.Command
