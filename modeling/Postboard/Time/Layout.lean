import Postboard.Time.Instant
import Postboard.Text.Blank

/-! Layouts: a date or a time as a row of fields and marks. Reading is lenient: blanks may stand
before a number and a number needs no leading zeros. -/
namespace Postboard.Time

open Text

structure Fields where
  year : Int := 0
  month : Nat := 0
  day : Nat := 0
  hour : Nat := 0
  minute : Nat := 0
  second : Nat := 0
  deriving DecidableEq

inductive Item where
  | year
  | month
  | monthName
  | day
  | hour
  | minute
  | second
  | mark (c : Char)
  /-- One space when written; any run of blanks, also none, when read. -/
  | gap
  deriving DecidableEq

abbrev Layout := List Item

def monthNames : List (List Char) :=
  ["Jan", "Feb", "Mar", "Apr", "May", "Jun", "Jul", "Aug", "Sep", "Oct", "Nov", "Dec"].map String.toList

def monthName (month : Nat) : List Char := (monthNames[month - 1]?).getD []

def readMonthName (s : List Char) : Option (Nat × List Char) :=
  let name := (s.take 3).map Char.toLower
  (monthNames.findIdx? fun known => known.map Char.toLower = name).map fun i => (i + 1, s.drop 3)

def readPair (s : List Char) : Option (Nat × List Char) := readNumber 2 (trimStart s)

def readYear (s : List Char) : Option (Int × List Char) :=
  match trimStart s with
  | '-' :: r => (readNumber r.length r).map fun (n, rest) => (-(n : Int), rest)
  | '+' :: r => (readNumber r.length r).map fun (n, rest) => ((n : Int), rest)
  | r => (readNumber 4 r).map fun (n, rest) => ((n : Int), rest)

def Item.read (f : Fields) (s : List Char) : Item → Option (Fields × List Char)
  | .year => (readYear s).map fun (n, r) => ({ f with year := n }, r)
  | .month => (readPair s).map fun (n, r) => ({ f with month := n }, r)
  | .monthName => (readMonthName s).map fun (n, r) => ({ f with month := n }, r)
  | .day => (readPair s).map fun (n, r) => ({ f with day := n }, r)
  | .hour => (readPair s).map fun (n, r) => ({ f with hour := n }, r)
  | .minute => (readPair s).map fun (n, r) => ({ f with minute := n }, r)
  | .second => (readPair s).map fun (n, r) => ({ f with second := n }, r)
  | .mark c =>
    match s with
    | d :: r => if d = c then some (f, r) else none
    | [] => none
  | .gap => some (f, trimStart s)

def Layout.read (f : Fields) (s : List Char) : Layout → Option (Fields × List Char)
  | [] => some (f, s)
  | item :: rest =>
    match item.read f s with
    | some (g, r) => Layout.read g r rest
    | none => none

def Item.write (f : Fields) : Item → List Char
  | .year => Instant.yearText f.year
  | .month => padded 2 f.month
  | .monthName => Time.monthName f.month
  | .day => padded 2 f.day
  | .hour => padded 2 f.hour
  | .minute => padded 2 f.minute
  | .second => padded 2 f.second
  | .mark c => [c]
  | .gap => [' ']

def Layout.write (f : Fields) (layout : Layout) : List Char := layout.flatMap (Item.write f)

namespace Fields

def ofDate (d : Date) : Fields := { year := d.year, month := d.month, day := d.day }

def date? (f : Fields) : Option Date := Date.ofCivil? f.year f.month f.day

def clockValid (f : Fields) : Bool := f.hour < 24 && f.minute < 60 && f.second ≤ 60

def instant? (f : Fields) (nano : Nat) (offset : Int) : Option Instant :=
  match f.date? with
  | some date =>
    if f.clockValid ∧ offset.natAbs < 1440 then
      let leap := f.second / 60
      let seconds : Int := date.number * 86400 + (f.hour * 3600 + f.minute * 60 + f.second - leap : Nat)
      Instant.ofSeconds? (seconds - offset * 60) (nano + leap * 1000000000)
    else none
  | none => none

end Fields

def readFraction (s : List Char) : Option (Nat × List Char) :=
  match s with
  | '.' :: r =>
    let digits := r.takeWhile isAsciiDigit
    let kept := digits.take 9
    if digits.isEmpty then none
    else some (decimalValue kept * Nat.pow 10 (9 - kept.length), r.drop digits.length)
  | _ => some (0, s)

def readOffset (separator : List Char → Option (List Char)) (s : List Char) : Option (Int × List Char) :=
  match s with
  | [] => none
  | c :: r =>
    if c = 'Z' ∨ c = 'z' then some (0, r)
    else if c = '+' ∨ c = '-' ∨ c = '\u2212' then do
      let (hours, r) ← readExactly 2 r
      let r ← separator r
      let (minutes, r) ← readExactly 2 r
      if minutes < 60 then
        let ahead : Int := (hours * 60 + minutes : Nat)
        some (if c = '+' then ahead else -ahead, r)
      else none
    else none

end Postboard.Time
