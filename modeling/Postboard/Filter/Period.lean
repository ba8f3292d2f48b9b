import Postboard.Clause
import Postboard.Text.Pieces
import Postboard.Time.Spelling

/-! Spans of time that a term or the date pickers ask for. -/
namespace Postboard

open Text

/-- A span of time. Its start belongs to it, its end only if it is closed. -/
structure Period where
  start : Option Instant := none
  stop : Option Instant := none
  closed : Bool := false
  deriving DecidableEq

namespace Period

def dayAfter? (d : Date) : Option Instant := d.next?.map Instant.midnight

def day (d : Date) : Period := { start := some (.midnight d), stop := dayAfter? d }

def clauses (p : Period) : List Clause :=
  (p.start.toList.map fun t => .only (.created .gte t)) ++
  (p.stop.toList.map fun t => .only (.created (if p.closed then .lte else .lt) t))

def sides (s : List Char) : Option (List Char × List Char) :=
  if (cut " to ".toList s).isSome then halves " to ".toList s else halves "..".toList s

def read? (term : List Char) : Option Period :=
  let s := spaced term
  match sides s with
  | some (first, last) =>
    let p : Period := { start := (Date.read? first).map .midnight, stop := (Date.read? last).bind dayAfter? }
    if p.start.isNone && p.stop.isNone then none else some p
  | none => (Date.read? s).map day

def ofPickers (lower upper : List Char) : Period :=
  let start := match Instant.read? lower with
    | some t => some t
    | none => (Date.read? lower).map .midnight
  match Instant.read? upper with
  | some t => { start, stop := some t, closed := true }
  | none => { start, stop := (Date.read? upper).bind dayAfter? }

end Period
end Postboard
