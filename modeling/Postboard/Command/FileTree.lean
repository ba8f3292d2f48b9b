import Postboard.Command.Disk

/-! Files in memory: a tree of directories with files in them. -/
namespace Postboard.Command

open Gzip (Bytes)

/-- Files and directories by their path from the root, as a list of names. The order of the files is the
order in which a walk meets them. -/
structure FileTree where
  files : List (List String × Bytes) := []
  directories : List (List String) := []

namespace FileTree

def isFile (t : FileTree) (path : List String) : Bool := t.files.any (·.1 == path)

def isDirectory (t : FileTree) (path : List String) : Bool :=
  path.isEmpty || t.directories.any (path.isPrefixOf ·) ||
  t.files.any fun (file, _) => path.isPrefixOf file && path != file

def names (path : String) : List String :=
  let parts := path.toList.splitOnP (· == '/')
  let found := (parts.filter (!·.isEmpty)).map String.ofList
  match parts.getLast? with
  | some [] => found ++ ["."]
  | _ => found

def longestName : Nat := 255

def longestPath : Nat := 4095

def follow (t : FileTree) (place : List String) : List String → Except DiskError (List String)
  | [] => .ok place
  | name :: rest =>
    if t.isFile place then .error .notDirectory
    else if !t.isDirectory place then .error .notFound
    else if name = "." then follow t place rest
    else if name = ".." then follow t place.dropLast rest
    else if longestName < name.utf8ByteSize then .error .nameTooLong
    else follow t (place ++ [name]) rest

def checkPath (path : String) : Except DiskError Unit :=
  if path = "" then .error .notFound
  else if longestPath < path.utf8ByteSize then .error .nameTooLong
  else .ok ()

def locate (t : FileTree) (path : String) : Except DiskError (List String) := do
  checkPath path
  t.follow [] (names path)

/-- Where a path leads that a file is written to. With a closing slash it can only mean a directory,
whatever is there, as long as everything before its last name is. -/
def locateTarget (t : FileTree) (path : String) : Except DiskError (List String) := do
  checkPath path
  let found := names path
  if path.endsWith "/" then
    let _ ← t.follow [] (found.dropLast.dropLast ++ ["."])
    throw .isDirectory
  else t.follow [] found

def kind (t : FileTree) (path : String) : Kind :=
  match t.locate path with
  | .ok place => if t.isFile place then .file else if t.isDirectory place then .directory else .missing
  | .error _ => .missing

def join (path : String) (below : List String) : String :=
  let below := "/".intercalate below
  if path.endsWith "/" then path ++ below else path ++ "/" ++ below

def walk (t : FileTree) (path : String) : List String :=
  match t.locate path with
  | .ok place => t.files.filterMap fun (file, _) =>
    if place.isPrefixOf file ∧ place ≠ file then some (join path (file.drop place.length)) else none
  | .error _ => []

def read (t : FileTree) (path : String) : Except DiskError Bytes := do
  let place ← t.locate path
  match t.files.lookup place with
  | some content => return content
  | none => throw (if t.isDirectory place then .isDirectory else .notFound)

def write (t : FileTree) (path : String) (content : Bytes) : Except DiskError FileTree := do
  let place ← t.locateTarget path
  if t.isDirectory place then throw .isDirectory
  return { t with files := (t.files.filter (·.1 != place)) ++ [(place, content)] }

def disk : Disk (StateM FileTree) where
  kind path := return (← get).kind path
  walk path := return (← get).walk path
  read path := return (← get).read path
  write path content := do
    match (← get).write path content with
    | .ok t => set t; return .ok ()
    | .error e => return .error e

end FileTree
end Postboard.Command
