import Postboard.Time.Layout

/-! The two readers of timestamps. The strict one takes the internet profile of timestamps, which a
user types into a term or a date picker. The lenient one takes the timestamps of stored data. -/
namespace Postboard.Time

open Text

def afterMark (c : Char) : List Char → Option (List Char)
  | d :: r => if d = c then some r else none
  | [] => none

def afterDay : List Char → Option (List Char)
  | d :: r => if d = 'T' ∨ d = 't' ∨ d = ' ' then some r else none
  | [] => none

def readStrictFields (s : List Char) : Option (Fields × List Char) := do
  let (year, s) ← readExactly 4 s
  let s ← afterMark '-' s
  let (month, s) ← readExactly 2 s
  let s ← afterMark '-' s
  let (day, s) ← readExactly 2 s
  let s ← afterDay s
  let (hour, s) ← readExactly 2 s
  let s ← afterMark ':' s
  let (minute, s) ← readExactly 2 s
  let s ← afterMark ':' s
  let (second, s) ← readExactly 2 s
  return ({ year := (year : Int), month, day, hour, minute, second }, s)

def readStrict? (s : List Char) : Option Instant := do
  let (fields, s) ← readStrictFields s
  let (nano, s) ← readFraction s
  let (offset, s) ← readOffset (afterMark ':') s
  if s.isEmpty then fields.instant? nano offset else none

def lenientDay : Layout := [.year, .gap, .mark '-', .month, .gap, .mark '-', .day]

def lenientClock : Layout := [.hour, .gap, .mark ':', .minute, .gap, .mark ':', .second]

def readLenientOffset (s : List Char) : Option (Int × List Char) :=
  if (s.take 3).map Char.toLower = ['u', 't', 'c'] then some (0, s.drop 3)
  else readOffset (fun r => some (r.dropWhile fun c => c == ':' || isBlank c)) s

def readLenient? (s : List Char) : Option Instant := do
  let (fields, s) ← lenientDay.read {} s
  let s ← afterDay s
  let (fields, s) ← lenientClock.read fields s
  let (nano, s) ← readFraction s
  let (offset, s) ← readLenientOffset (trimStart s)
  if (trimStart s).isEmpty then fields.instant? nano offset else none

end Postboard.Time
