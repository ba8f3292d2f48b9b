/-! What a command prints, and the code it ends with. -/
namespace Postboard.Command

structure Report where
  out : List String := []
  errors : List String := []
  code : Nat := 0
  deriving DecidableEq

namespace Report

def failed (out : List String) (message : String) : Report := { out, errors := ["错误: " ++ message], code := 1 }

def misuse (message : String) : Report := { errors := [message], code := 2 }

end Report

def padRight (width : Nat) (s : String) : String := s ++ String.ofList (List.replicate (width - s.length) ' ')

def padLeft (width : Nat) (s : String) : String := String.ofList (List.replicate (width - s.length) ' ') ++ s

end Postboard.Command
