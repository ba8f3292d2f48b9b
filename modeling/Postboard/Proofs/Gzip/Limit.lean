import Postboard.Proofs.Gzip.Room

/-! Unpacking as far as a limit. Only a lack of room makes a run stop as full, and then the room is used
up, so a result below the limit is the result of the whole member. -/
namespace Postboard.Gzip

section Bits
variable {α β : Type}

end Bits

variable {α β : Type} {size : Nat} {out : Array UInt8}

/- The room that a run was given is not exceeded, and only a run that has used it all ends as full. -/
def Within (size : Nat) (run : Unpacked α) : Prop :=
  run.1.size ≤ size ∧ (run.2 = .error .full → run.1.size = size)

end Postboard.Gzip
