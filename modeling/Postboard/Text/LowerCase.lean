import Postboard.Text.LowerCase.Table

/-! Lower-casing of a whole text by the rules of the character database. One capital has two
lower-case forms: Σ ends a word as ς and stands elsewhere as σ. İ becomes i with a dot above. -/
namespace Postboard.Text

open LowerCase

def lowerChar (c : Char) : List Char :=
  if c.toNat < 0x80 then [c.toLower]
  else if c = 'İ' then ['i', '\u0307']
  else
    match capitalRuns.findSome? (·.smallOf? c.toNat) with
    | some n => [Char.ofNat n]
    | none => [c]

def casedFirst (s : List Char) : Bool :=
  match s.dropWhile (covers ignorableRanges ·.toNat) with
  | c :: _ => covers casedRanges c.toNat
  | [] => false

/-- Lower-cases the rest of a text, of which `past` was read already, the last character first. -/
def lowerAfter (past : List Char) : List Char → List Char
  | [] => []
  | c :: r =>
    let small := if c = 'Σ' then [if casedFirst past && !casedFirst r then 'ς' else 'σ'] else lowerChar c
    small ++ lowerAfter (c :: past) r

def lower (s : List Char) : List Char := lowerAfter [] s

end Postboard.Text
