import Postboard.Json.Value

/-! Writing JSON, on one line or with one member a line. -/
namespace Postboard.Json

def controlDigits (c : Char) : List Char := [Nat.digitChar (c.toNat / 16), Nat.digitChar (c.toNat % 16)]

def writeChar (c : Char) : List Char :=
  if c = '"' then ['\\', '"']
  else if c = '\\' then ['\\', '\\']
  else if c = '\x08' then ['\\', 'b']
  else if c = '\x0c' then ['\\', 'f']
  else if c = '\n' then ['\\', 'n']
  else if c = '\r' then ['\\', 'r']
  else if c = '\t' then ['\\', 't']
  else if c.toNat < 0x20 then ['\\', 'u', '0', '0'] ++ controlDigits c
  else [c]

def writeString : Option String → List Char
  | some text => '"' :: (text.toList.flatMap writeChar ++ ['"'])
  | none => ['"', '\\', 'u', 'd', '8', '0', '0', '"']

def Number.write (n : Number) : List Char :=
  (if n.negative then ['-'] else []) ++ n.whole ++
  (if n.fraction.isEmpty then [] else '.' :: n.fraction) ++
  (match n.exponent with
    | some (negative, digits) => 'e' :: (if negative then '-' :: digits else digits)
    | none => [])

namespace Value

mutual
def write : Value → List Char
  | null => "null".toList
  | bool b => if b then "true".toList else "false".toList
  | number n => n.write
  | string text => writeString text
  | array [] => ['[', ']']
  | array (v :: rest) => '[' :: (v.write ++ writeItems rest)
  | object [] => ['\x7b', '\x7d']
  | object ((name, v) :: rest) => '\x7b' :: (writeString name ++ ':' :: (v.write ++ writeMembers rest))

def writeItems : List Value → List Char
  | [] => [']']
  | v :: rest => ',' :: (v.write ++ writeItems rest)

def writeMembers : List (Option String × Value) → List Char
  | [] => ['\x7d']
  | (name, v) :: rest => ',' :: (writeString name ++ ':' :: (v.write ++ writeMembers rest))
end

def newLine (depth : Nat) : List Char := '\n' :: List.replicate (2 * depth) ' '

mutual
def pretty (depth : Nat) : Value → List Char
  | array [] => ['[', ']']
  | array (v :: rest) => '[' :: (newLine (depth + 1) ++ v.pretty (depth + 1) ++ prettyItems depth rest)
  | object [] => ['\x7b', '\x7d']
  | object ((name, v) :: rest) =>
    '\x7b' :: (newLine (depth + 1) ++ writeString name ++ ':' :: ' ' :: v.pretty (depth + 1) ++ prettyMembers depth rest)
  | null => write null
  | bool b => write (bool b)
  | number n => write (number n)
  | string text => write (string text)

def prettyItems (depth : Nat) : List Value → List Char
  | [] => newLine depth ++ [']']
  | v :: rest => ',' :: (newLine (depth + 1) ++ v.pretty (depth + 1) ++ prettyItems depth rest)

def prettyMembers (depth : Nat) : List (Option String × Value) → List Char
  | [] => newLine depth ++ ['\x7d']
  | (name, v) :: rest =>
    ',' :: (newLine (depth + 1) ++ writeString name ++ ':' :: ' ' :: v.pretty (depth + 1) ++ prettyMembers depth rest)
end

def text (v : Value) : String := String.ofList v.write

end Value
end Postboard.Json
