import Postboard.Pager

/-! Paging as arithmetic on numbers without bounds. The number of pages is the posts divided by the
size of a page, rounded up; a window that starts within the result is where its page stands, since no
product up to there leaves 64 bits. Turning pages many times in a row ends on the last page at most. -/
namespace Postboard.Pager

def pageCount (size n : Nat) : Nat := max 1 ((n + size - 1) / size)

theorem toNatMax (a b : UInt64) : (max a b).toNat = max a.toNat b.toNat := by
  by_cases h : a ≤ b
  · have le := UInt64.le_iff_toNat_le.1 h
    rw [show max a b = b from if_pos h, Nat.max_eq_right le]
  · have lt := UInt64.lt_iff_toNat_lt.1 (UInt64.not_le.1 h)
    rw [show max a b = a from if_neg h, Nat.max_eq_left (Nat.le_of_lt lt)]

theorem toNatMin (a b : UInt64) : (min a b).toNat = min a.toNat b.toNat := by
  by_cases h : a ≤ b
  · have le := UInt64.le_iff_toNat_le.1 h
    rw [show min a b = a from if_pos h, Nat.min_eq_left le]
  · have lt := UInt64.lt_iff_toNat_lt.1 (UInt64.not_le.1 h)
    rw [show min a b = b from if_neg h, Nat.min_eq_right (Nat.le_of_lt lt)]

theorem ceilSplit {size : Nat} (positive : 0 < size) (n : Nat) :
    (n + size - 1) / size = n / size + if n % size = 0 then 0 else 1 := by
  have split := Nat.div_add_mod n size
  have small := Nat.mod_lt n positive
  generalize n / size = q at *
  generalize n % size = r at *
  subst split
  split
  · subst r
    rw [Nat.add_zero, Nat.add_sub_assoc positive, Nat.mul_add_div positive, Nat.div_eq_of_lt (by omega)]
  · rw [Nat.add_assoc, Nat.add_sub_assoc (by omega), Nat.mul_add_div positive]
    congr 1
    exact Nat.div_eq_of_lt_le (by omega) (by omega)

theorem pagesForCount {perPage : UInt64} (positive : 0 < perPage.toNat) (total : UInt64) :
    (pagesFor perPage total).toNat = pageCount perPage.toNat total.toNat := by
  have small := total.toNat_lt
  have quotient := Nat.div_le_self total.toNat perPage.toNat
  have zero : total % perPage = 0 ↔ total.toNat % perPage.toNat = 0 := by
    rw [← UInt64.toNat_inj, UInt64.toNat_mod, UInt64.toNat_zero]
  rw [pagesFor, toNatMax, UInt64.toNat_add, UInt64.toNat_div, UInt64.toNat_one, pageCount, Nat.max_comm,
    ceilSplit positive]
  congr 1
  by_cases even : total % perPage = 0
  · rw [if_pos even, if_pos (zero.1 even), UInt64.toNat_zero, Nat.add_zero]
    exact Nat.mod_eq_of_lt (Nat.lt_of_le_of_lt quotient small)
  · rw [if_neg even, if_neg fun h => even (zero.2 h), UInt64.toNat_one]
    -- A remainder needs a page of two posts or more, so the quotient is far from the last number.
    have two : 2 ≤ perPage.toNat := by
      apply Nat.le_of_not_lt
      intro less
      have one : perPage.toNat = 1 := by omega
      exact even (zero.2 (by rw [one, Nat.mod_one]))
    have half : total.toNat / perPage.toNat ≤ total.toNat / 2 := Nat.div_le_div_left two (by omega)
    exact Nat.mod_eq_of_lt (by omega)

theorem pageCountZero {size : Nat} (positive : 0 < size) : pageCount size 0 = 1 := by
  rw [pageCount, Nat.div_eq_of_lt (by omega)]
  rfl

theorem hasNextIff (p : Pager) : p.hasNext ↔ p.current.toNat < p.pages.toNat := by
  rw [hasNext, decide_eq_true_iff, UInt64.lt_iff_toNat_lt]

theorem nextCurrent {p : Pager} (room : p.current.toNat + 1 < UInt64.size) :
    p.next.current.toNat = min (p.current.toNat + 1) (max p.pages.toNat 1) := by
  rw [next, toNatMin, toNatMax, UInt64.toNat_add, UInt64.toNat_one, Nat.mod_eq_of_lt room]

theorem forwardPages (p : Pager) (steps : Nat) : (p.forward steps).pages = p.pages := by
  induction steps generalizing p with
  | zero => rfl
  | succ steps ih => exact ih p.next

theorem forwardPerPage (p : Pager) (steps : Nat) : (p.forward steps).perPage = p.perPage := by
  induction steps generalizing p with
  | zero => rfl
  | succ steps ih => exact ih p.next

theorem forwardCurrent {p : Pager} (some : 1 ≤ p.pages.toNat) (few : p.pages.toNat + 1 < UInt64.size)
    (within : p.current.toNat ≤ p.pages.toNat) (steps : Nat) :
    (p.forward steps).current.toNat = min (p.current.toNat + steps) p.pages.toNat := by
  induction steps generalizing p with
  | zero => exact (Nat.min_eq_left within).symm
  | succ steps ih =>
    have next := nextCurrent (p := p) (by omega)
    have turned := ih (p := p.next) some few (show p.next.current.toNat ≤ p.pages.toNat by omega)
    rw [forward, turned, next]
    show min (min (p.current.toNat + 1) (max p.pages.toNat 1) + steps) p.pages.toNat = _
    omega

theorem previousCurrent (p : Pager) :
    p.previous.current.toNat = max (min (p.current.toNat - 1) p.pages.toNat) 1 := by
  have before : (if p.current = 0 then 0 else p.current - 1).toNat = p.current.toNat - 1 := by
    by_cases zero : p.current = 0
    · rw [if_pos zero, zero]
      rfl
    · have first : (1 : UInt64) ≤ p.current := by
        rw [UInt64.le_iff_toNat_le, UInt64.toNat_one]
        exact Nat.pos_of_ne_zero fun h => zero (UInt64.toNat_inj.1 h)
      rw [if_neg zero, UInt64.toNat_sub_of_le _ _ first, UInt64.toNat_one]
  rw [previous, toNatMax, toNatMin, before, UInt64.toNat_one]

theorem windowOffset {p : Pager} (fits : (p.current.toNat - 1) * p.perPage.toNat < UInt64.size) :
    p.window.offset.toNat = (p.current.toNat - 1) * p.perPage.toNat := by
  have one : (1 : UInt64) ≤ max p.current 1 := by
    rw [UInt64.le_iff_toNat_le, toNatMax]
    exact Nat.le_max_right _ _
  have here : max p.current.toNat 1 - 1 = p.current.toNat - 1 := by omega
  rw [window, UInt64.toNat_mul, UInt64.toNat_sub_of_le _ _ one, toNatMax, UInt64.toNat_one, here, Nat.mod_eq_of_lt fits]

/- Where a page starts, something is left of the result; the first page starts even if nothing is. -/
theorem pageStarts {size n k : Nat} (positive : 0 < size) (within : k ≤ pageCount size n) :
    (k - 1) * size < max n 1 := by
  by_cases first : k ≤ 1
  · rw [show k - 1 = 0 by omega, Nat.zero_mul]
    omega
  · have rounded : k ≤ (n + size - 1) / size := by
      unfold pageCount at within
      omega
    obtain ⟨j, rfl⟩ : ∃ j, k = j + 1 := ⟨k - 1, by omega⟩
    rw [Nat.le_div_iff_mul_le positive, Nat.succ_mul] at rounded
    rw [Nat.add_sub_cancel]
    omega

theorem fullBeforeLast {size n k : Nat} (positive : 0 < size) (before : k < pageCount size n) (first : 1 ≤ k) :
    k * size ≤ n := by
  have next : k * size < max n 1 := pageStarts positive before
  have some : 1 ≤ k * size := Nat.mul_pos first positive
  omega

theorem lastPageEnds {size : Nat} (positive : 0 < size) (n : Nat) : n ≤ pageCount size n * size := by
  have up : (n + size - 1) / size ≤ pageCount size n := Nat.le_max_right _ _
  have beyond := Nat.lt_div_mul_add (a := n + size - 1) positive
  have scaled := Nat.mul_le_mul_right size up
  omega

end Postboard.Pager
