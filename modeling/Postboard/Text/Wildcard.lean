import Postboard.Text.LowerCase
import Postboard.Text.Pieces

/-! Patterns with stars. A star stands for any run of characters, and a pattern may match anywhere
in a text, so only the pieces between its stars count. -/
namespace Postboard.Text.Wildcard

def literals (pattern : List Char) : List (List Char) := pieces (· == '*') pattern

def inOrder : List (List Char) → List Char → Bool
  | [], _ => true
  | piece :: rest, s =>
    match cut piece s with
    | some (_, after) => inOrder rest after
    | none => false

def occursIn (pattern text : List Char) : Bool := inOrder (literals (lower pattern)) (lower text)

theorem occursInOfNoLiterals {pattern : List Char} (h : literals (lower pattern) = []) (text : List Char) :
    occursIn pattern text := by
  simp [occursIn, h, inOrder]

end Postboard.Text.Wildcard
