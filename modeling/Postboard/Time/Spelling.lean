import Postboard.Time.Timestamp

/-! The spellings of a calendar day that a user may type. -/
namespace Postboard

open Text Time

inductive Spelling where
  | dashed
  | slashed
  | monthFirst
  | dayFirst
  | timestamp
  /-- As 2024-03-01T08:30:00, of which the time is dropped. -/
  | clocked
  deriving DecidableEq

namespace Spelling

def layout? : Spelling → Option Layout
  | dashed => some [.year, .mark '-', .month, .mark '-', .day]
  | slashed => some [.year, .mark '/', .month, .mark '/', .day]
  | monthFirst => some [.monthName, .gap, .day, .mark ',', .gap, .year]
  | dayFirst => some [.day, .gap, .monthName, .gap, .year]
  | timestamp => none
  | clocked => some [.year, .mark '-', .month, .mark '-', .day, .mark 'T', .hour, .mark ':', .minute, .mark ':', .second]

def read? (spelling : Spelling) (s : List Char) : Option Date :=
  match spelling.layout? with
  | some layout =>
    match layout.read {} s with
    | some (fields, []) => if fields.clockValid then fields.date? else none
    | _ => none
  | none => (readStrict? s).map (·.date)

def write (spelling : Spelling) (d : Date) : List Char :=
  (spelling.layout?.getD []).write (.ofDate d)

def all : List Spelling := [dashed, slashed, monthFirst, dayFirst, timestamp, clocked]

end Spelling

def Date.read? (s : List Char) : Option Date :=
  Spelling.all.findSome? (·.read? (trim s))

def Instant.read? (s : List Char) : Option Instant := readStrict? (trim s)

end Postboard
