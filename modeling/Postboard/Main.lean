import Postboard.Command.FileTree
import Postboard.Command.Run
import Std.Time.DateTime.Timestamp

/-! The program: the command line on the files of this machine. -/
namespace Postboard.Main

open Command

def diskError (e : IO.Error) : DiskError :=
  match e with
  | .noFileOrDirectory .. => .notFound
  | .noSuchThing .. => .notFound
  | .permissionDenied .. => .denied
  | .inappropriateType _ code details => if code = 20 then .notDirectory else if code = 21 then .isDirectory else .other details
  | .invalidArgument _ code details => if code = 36 then .nameTooLong else .other details
  | other => .other (toString other)

def attempt (action : IO α) : IO (Except DiskError α) := do
  try return .ok (← action)
  catch e => return .error (diskError e)

def kindOf (path : String) : IO Kind := do
  match ← attempt (System.mkFilePath [path]).metadata with
  | .ok data => return match data.type with
    | .file => .file
    | .dir => .directory
    | _ => .missing
  | .error _ => return .missing

/-- Links below the directory are not followed, and what cannot be read is passed over. -/
def filesBelow (path : String) : IO (List String) := do
  let mut found := []
  let mut places := [path]
  repeat
    match places with
    | [] => break
    | place :: rest =>
      places := rest
      let .ok entries ← attempt (System.mkFilePath [place]).readDir | continue
      for entry in entries do
        let below := FileTree.join place [entry.fileName]
        let .ok data ← attempt entry.path.symlinkMetadata | continue
        match data.type with
        | .file => found := below :: found
        | .dir => places := below :: places
        | _ => pure ()
  return found

def disk : Disk IO where
  kind := kindOf
  walk := filesBelow
  read path := attempt do return (← IO.FS.readBinFile path).data.toList
  write path content := attempt (IO.FS.writeBinFile path content.toByteArray)

def now : IO Instant := do
  let t ← Std.Time.Timestamp.now
  let epoch := 719528 * 86400
  let nano := t.toNanosecondsSinceUnixEpoch.val
  return (Instant.ofSeconds? (epoch + nano / 1000000000) (nano % 1000000000).toNat).getD
    (.midnight ⟨719528, by decide, by decide⟩)

end Postboard.Main

def main (arguments : List String) : IO UInt32 := do
  let program := ((← IO.appPath).fileName).getD "postboard"
  let report ← Postboard.Command.run Postboard.Main.disk (← Postboard.Main.now) program arguments
  report.out.forM fun line => IO.println line
  report.errors.forM fun line => IO.eprintln line
  return report.code.toUInt32
