import Postboard.Json.Value

/-! Reading JSON from a whole text, by the strict grammar. Every reader takes the text before it and
gives what it read with the text after it. -/
namespace Postboard.Json

open Text

def isJsonBlank (c : Char) : Bool := c == ' ' || c == '\t' || c == '\n' || c == '\r'

def skipBlanks (s : List Char) : List Char := s.dropWhile isJsonBlank

def hexValue? (c : Char) : Option Nat :=
  if '0' ≤ c ∧ c ≤ '9' then some (c.toNat - 48)
  else if 'a' ≤ c ∧ c ≤ 'f' then some (c.toNat - 87)
  else if 'A' ≤ c ∧ c ≤ 'F' then some (c.toNat - 55)
  else none

def codeUnit? (a b c d : Char) : Option Nat := do
  return (((← hexValue? a) * 16 + (← hexValue? b)) * 16 + (← hexValue? c)) * 16 + (← hexValue? d)

def isHighSurrogate (n : Nat) : Bool := 0xD800 ≤ n && n < 0xDC00

def isLowSurrogate (n : Nat) : Bool := 0xDC00 ≤ n && n < 0xE000

def escaped? (c : Char) : Option Char :=
  if c = '"' ∨ c = '\\' ∨ c = '/' then some c
  else if c = 'b' then some '\x08'
  else if c = 'f' then some '\x0c'
  else if c = 'n' then some '\n'
  else if c = 'r' then some '\r'
  else if c = 't' then some '\t'
  else none

inductive Piece where
  | char (c : Char)
  | unit (n : Nat)

def readPieces : List Char → Option (List Piece × List Char)
  | [] => none
  | '"' :: r => some ([], r)
  | '\\' :: 'u' :: a :: b :: c :: d :: r =>
    match codeUnit? a b c d with
    | some n => (readPieces r).map fun (ps, rest) => (.unit n :: ps, rest)
    | none => none
  | '\\' :: e :: r =>
    match escaped? e with
    | some c => (readPieces r).map fun (ps, rest) => (.char c :: ps, rest)
    | none => none
  | c :: r =>
    if c.toNat < 0x20 then none
    else (readPieces r).map fun (ps, rest) => (.char c :: ps, rest)

def characters? : List Piece → Option (List Char)
  | [] => some []
  | .char c :: r => (characters? r).map (c :: ·)
  | .unit high :: .unit low :: r =>
    if isHighSurrogate high then
      if isLowSurrogate low then
        (characters? r).map (Char.ofNat (0x10000 + (high - 0xD800) * 0x400 + (low - 0xDC00)) :: ·)
      else none
    else if isLowSurrogate high then none
    else (characters? (.unit low :: r)).map (Char.ofNat high :: ·)
  | .unit n :: r =>
    if isHighSurrogate n || isLowSurrogate n then none else (characters? r).map (Char.ofNat n :: ·)

def readString (s : List Char) : Option (Option String × List Char) :=
  (readPieces s).map fun (pieces, rest) => ((characters? pieces).map String.ofList, rest)

def readDigits (s : List Char) : Option (List Char × List Char) :=
  let digits := s.takeWhile isAsciiDigit
  if digits.isEmpty then none else some (digits, s.drop digits.length)

def readWhole (s : List Char) : Option (List Char × List Char) :=
  match s with
  | '0' :: r => some (['0'], r)
  | _ => readDigits s

def readFractionDigits (s : List Char) : Option (List Char × List Char) :=
  match s with
  | '.' :: r => readDigits r
  | _ => some ([], s)

def readExponent (s : List Char) : Option (Option (Bool × List Char) × List Char) :=
  match s with
  | c :: r =>
    if c = 'e' ∨ c = 'E' then
      match r with
      | '-' :: r => (readDigits r).map fun (digits, rest) => (some (true, digits), rest)
      | '+' :: r => (readDigits r).map fun (digits, rest) => (some (false, digits), rest)
      | _ => (readDigits r).map fun (digits, rest) => (some (false, digits), rest)
    else some (none, s)
  | [] => some (none, [])

def readNumber (s : List Char) : Option (Number × List Char) := do
  let (negative, s) := match s with
    | '-' :: r => (true, r)
    | _ => (false, s)
  let (whole, s) ← readWhole s
  let (fraction, s) ← readFractionDigits s
  let (exponent, s) ← readExponent s
  return ({ negative, whole, fraction, exponent }, s)

mutual
/-- A value after any blanks. The first argument bounds the number of readers in one another; the
length of the text is more than enough. -/
def readValue : Nat → List Char → Option (Value × List Char)
  | 0, _ => none
  | fuel + 1, s =>
    match skipBlanks s with
    | 'n' :: 'u' :: 'l' :: 'l' :: r => some (.null, r)
    | 't' :: 'r' :: 'u' :: 'e' :: r => some (.bool true, r)
    | 'f' :: 'a' :: 'l' :: 's' :: 'e' :: r => some (.bool false, r)
    | '"' :: r => (readString r).map fun (text, rest) => (.string text, rest)
    | '[' :: r =>
      match skipBlanks r with
      | ']' :: rest => some (.array [], rest)
      | r => (readItems fuel r).map fun (items, rest) => (.array items, rest)
    | '\x7b' :: r =>
      match skipBlanks r with
      | '\x7d' :: rest => some (.object [], rest)
      | r => (readMembers fuel r).map fun (members, rest) => (.object members, rest)
    | r => (readNumber r).map fun (n, rest) => (.number n, rest)

def readItems : Nat → List Char → Option (List Value × List Char)
  | 0, _ => none
  | fuel + 1, s =>
    match readValue fuel s with
    | some (v, r) =>
      match skipBlanks r with
      | ',' :: r => (readItems fuel r).map fun (vs, rest) => (v :: vs, rest)
      | ']' :: rest => some ([v], rest)
      | _ => none
    | none => none

def readMembers : Nat → List Char → Option (List (Option String × Value) × List Char)
  | 0, _ => none
  | fuel + 1, s =>
    match skipBlanks s with
    | '"' :: r =>
      match readString r with
      | some (name, r) =>
        match skipBlanks r with
        | ':' :: r =>
          match readValue fuel r with
          | some (v, r) =>
            match skipBlanks r with
            | ',' :: r => (readMembers fuel r).map fun (ms, rest) => ((name, v) :: ms, rest)
            | '\x7d' :: rest => some ([(name, v)], rest)
            | _ => none
          | none => none
        | _ => none
      | none => none
    | _ => none
end

def Value.read? (s : List Char) : Option Value :=
  match readValue (2 * s.length + 2) s with
  | some (v, rest) => if (skipBlanks rest).isEmpty then some v else none
  | none => none

def Value.parse? (text : String) : Option Value := Value.read? text.toList

end Postboard.Json
