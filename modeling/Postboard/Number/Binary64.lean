/-! Rounding to the nearest number of 53 binary digits, ties to the even one: the precision in which
averages are computed and decimal literals are read. Numbers are ratios of natural numbers. -/
namespace Postboard.Binary64

def roundQuotient (n d : Nat) : Nat :=
  let q := n / d
  let r := n % d
  if d < 2 * r ∨ (2 * r = d ∧ q % 2 = 1) then q + 1 else q

def roundNat (n : Nat) : Nat :=
  let unit := Nat.pow 2 (n.log2 - 52)
  roundQuotient n unit * unit

def roundRatio (n d : Nat) : Nat × Nat :=
  let shift := 53 + d.log2 - n.log2
  let shift := if n * Nat.pow 2 shift / d < 0x20000000000000 then shift else shift - 1
  (roundQuotient (n * Nat.pow 2 shift) d, Nat.pow 2 shift)

def infinite : Nat := Nat.pow 2 1024 - Nat.pow 2 970

end Postboard.Binary64
