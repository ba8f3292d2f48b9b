import Postboard.Number.Binary64
import Postboard.Text.Decimal

/-! JSON values as they were written: numbers keep their digits, objects the order and the repetition
of their members. -/
namespace Postboard.Json

open Text

structure Number where
  negative : Bool := false
  whole : List Char
  fraction : List Char := []
  exponent : Option (Bool × List Char) := none
  deriving DecidableEq

inductive Value where
  | null
  | bool (b : Bool)
  | number (n : Number)
  /-- A string; none for one with half of a surrogate pair, for which there is no text. -/
  | string (text : Option String)
  | array (items : List Value)
  | object (members : List (Option String × Value))

namespace Number

def ofNat (n : Nat) : Number := { whole := Nat.toDigits 10 n }

def isWhole (n : Number) : Bool := n.fraction.isEmpty && n.exponent.isNone

def natural? (n : Number) : Option UInt64 :=
  let value := decimalValue n.whole
  if n.isWhole ∧ ¬n.negative ∧ value < UInt64.size then some (UInt64.ofNat value) else none

def integer? (n : Number) : Option Int :=
  let value := decimalValue n.whole
  if n.isWhole = false then none
  else if n.negative then (if 0 < value ∧ value ≤ 0x8000000000000000 then some (-(value : Int)) else none)
  else if value < UInt64.size then some value
  else none

def gather (significand : Nat) : List Char → Nat × List Char
  | [] => (significand, [])
  | c :: r =>
    let next := significand * 10 + decimalValue [c]
    if next < UInt64.size then gather next r else (significand, c :: r)

/-- The literal is within the range of binary floating point. Its first digits, as many as 64 bits
hold, are scaled by the power of ten that makes up for the others. -/
def isFinite (n : Number) : Bool :=
  let (significand, leftWhole) := gather 0 n.whole
  let (significand, leftFraction) := gather significand n.fraction
  let written : Int := match n.exponent with
    | some (true, digits) => -(decimalValue digits : Int)
    | some (false, digits) => decimalValue digits
    | none => 0
  let scale : Int := written + leftWhole.length - (n.fraction.length - leftFraction.length : Nat)
  n.isWhole && leftWhole.isEmpty || significand == 0 || scale < 0 ||
  scale ≤ 308 && Binary64.roundNat significand * Binary64.roundNat (Nat.pow 10 scale.toNat) < Binary64.infinite

end Number

namespace Value

def ofString (s : String) : Value := .string (some s)

def ofNat (n : Nat) : Value := .number (.ofNat n)

def record (members : List (String × Value)) : Value :=
  .object (members.map fun (name, value) => (some name, value))

def ofOption (encode : α → Value) : Option α → Value
  | some a => encode a
  | none => .null

mutual
def fits (room : Nat) : Value → Bool
  | null => true
  | bool _ => true
  | number n => n.isFinite
  | string text => text.isSome
  | array items => match room with
    | 0 => false
    | room + 1 => itemsFit room items
  | object members => match room with
    | 0 => false
    | room + 1 => membersFit room members

def itemsFit (room : Nat) : List Value → Bool
  | [] => true
  | v :: rest => v.fits room && itemsFit room rest

def membersFit (room : Nat) : List (Option String × Value) → Bool
  | [] => true
  | (name, v) :: rest => name.isSome && v.fits room && membersFit room rest
end

end Value
end Postboard.Json
