import Postboard.Gzip.Bits

/-! Files as the commands see them: by path, in whatever place they are kept. -/
namespace Postboard.Command

open Gzip (Bytes)

inductive DiskError where
  | notFound
  | denied
  | notDirectory
  | isDirectory
  | nameTooLong
  | other (words : String)
  deriving DecidableEq

def DiskError.message : DiskError → String
  | notFound => "No such file or directory (os error 2)"
  | denied => "Permission denied (os error 13)"
  | notDirectory => "Not a directory (os error 20)"
  | isDirectory => "Is a directory (os error 21)"
  | nameTooLong => "File name too long (os error 36)"
  | other words => words

inductive Kind where
  | file
  | directory
  | missing
  deriving DecidableEq

/-- A place that keeps files. `walk` lists the files anywhere below a directory, in any order. -/
structure Disk (m : Type → Type) where
  kind : String → m Kind
  walk : String → m (List String)
  read : String → m (Except DiskError Bytes)
  write : String → Bytes → m (Except DiskError Unit)

end Postboard.Command
