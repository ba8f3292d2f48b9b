import Postboard.Proofs.Pager.Counting

/-! Turning pages from any state, also from a page that there is not. A step back always lands on a page there is, and
so does a step forward from every page but one: the number after the last of 64 bits is none to step to, and whoever
does not stop there comes to zero. -/
namespace Postboard.Pager

structure Settled (p : Pager) : Prop where
  first : 1 ≤ p.current.toNat
  last : p.current.toNat ≤ max p.pages.toNat 1

variable {p : Pager}

theorem nextSettled (room : p.current.toNat + 1 < UInt64.size) : p.next.Settled := by
  have current := nextCurrent room
  have pages : p.next.pages = p.pages := rfl
  constructor
  · omega
  · rw [pages]
    omega

theorem previousSettled (p : Pager) : p.previous.Settled := by
  have current := p.previousCurrent
  have pages : p.previous.pages = p.pages := rfl
  constructor
  · omega
  · rw [pages]
    omega

theorem nextFound (room : p.current.toNat + 1 < UInt64.size) : p.next? = some p.next := if_pos room

theorem nextNone (last : p.current.toNat + 1 = UInt64.size) : p.next? = none :=
  if_neg (Nat.not_lt_of_le (Nat.le_of_eq last.symm))

theorem nextOfLast (last : p.current.toNat + 1 = UInt64.size) : p.next.current = 0 := by
  have wrapped : p.current + 1 = 0 := by
    rw [← UInt64.toNat_inj, UInt64.toNat_add, UInt64.toNat_one, last]
    rfl
  rw [← UInt64.toNat_inj, next, toNatMin, wrapped, UInt64.toNat_zero, Nat.zero_min]

/- The pages are counted in as many bits, so a page that has a next is not the last number. -/
theorem roomOfHasNext (more : p.hasNext) : p.current.toNat + 1 < UInt64.size :=
  Nat.lt_of_le_of_lt (p.hasNextIff.1 more) p.pages.toNat_lt

theorem nextOfHasNext (more : p.hasNext) : p.next.current.toNat = p.current.toNat + 1 := by
  have before := p.hasNextIff.1 more
  have current := nextCurrent (roomOfHasNext more)
  omega

theorem previousOfNext (first : 1 ≤ p.current.toNat) (more : p.hasNext) : p.next.previous = p := by
  have before := p.hasNextIff.1 more
  have forward := nextOfHasNext more
  have back := p.next.previousCurrent
  have pages : p.next.pages = p.pages := rfl
  rw [pages] at back
  have same : p.next.previous.current = p.current := UInt64.toNat_inj.1 (by omega)
  exact congrArg (fun current => { p with current }) same

theorem nextAtEnd (first : 1 ≤ p.current.toNat) (atEnd : ¬p.hasNext) : p.next.current.toNat ≤ p.current.toNat := by
  rw [hasNextIff] at atEnd
  rcases Nat.lt_or_eq_of_le (Nat.succ_le_of_lt p.current.toNat_lt) with room | last
  · have current := nextCurrent (p := p) room
    omega
  · rw [nextOfLast last]
    exact Nat.zero_le _

theorem hasPreviousIff (p : Pager) : p.hasPrevious ↔ p.previous.current.toNat < p.current.toNat := by
  have current := p.previousCurrent
  rw [hasPrevious, decide_eq_true_iff, UInt64.lt_iff_toNat_lt, UInt64.toNat_one]
  omega

theorem turningSaturates (p : Pager) :
    (p.current.toNat + 1 < UInt64.size → p.next? = some p.next ∧
      p.next.current.toNat = min (p.current.toNat + 1) (max p.pages.toNat 1) ∧ p.next.Settled) ∧
    (p.current.toNat + 1 = UInt64.size → p.next? = none ∧ p.next.current = 0) ∧
    p.previous.current.toNat = max (min (p.current.toNat - 1) p.pages.toNat) 1 ∧ p.previous.Settled ∧
    p.next = { p with current := p.next.current } ∧ p.previous = { p with current := p.previous.current } ∧
    (1 ≤ p.current.toNat → p.hasNext →
      p.next? = some p.next ∧ p.next.current.toNat = p.current.toNat + 1 ∧ p.next.previous = p) ∧
    (1 ≤ p.current.toNat → ¬p.hasNext → p.next.current.toNat ≤ p.current.toNat) ∧
    (p.hasPrevious ↔ p.previous.current.toNat < p.current.toNat) := by
  refine ⟨?_, ?_, p.previousCurrent, p.previousSettled, rfl, rfl, ?_, nextAtEnd, p.hasPreviousIff⟩
  · intro room
    exact ⟨nextFound room, nextCurrent room, nextSettled room⟩
  · intro last
    exact ⟨nextNone last, nextOfLast last⟩
  · intro first more
    exact ⟨nextFound (roomOfHasNext more), nextOfHasNext more, previousOfNext first more⟩

theorem outerPagesTurned :
    let beyond : Pager := ⟨9, 20, 3⟩
    let inner : Pager := ⟨2, 20, 3⟩
    let highest : Pager := ⟨18446744073709551615, 20, 3⟩
    beyond.next? = some ⟨3, 20, 3⟩ ∧ beyond.next.Settled ∧ beyond.next.current.toNat ≤ beyond.current.toNat ∧
    inner.next.current.toNat = 3 ∧ inner.next.previous = inner ∧ highest.next? = none ∧ highest.next.current = 0 := by
  intro beyond inner highest
  obtain ⟨room, -, -, -, -, -, -, atEnd, -⟩ := turningSaturates beyond
  obtain ⟨-, -, -, -, -, -, more, -, -⟩ := turningSaturates inner
  obtain ⟨-, last, -⟩ := turningSaturates highest
  obtain ⟨found, -, settled⟩ := room (by decide)
  obtain ⟨-, turned, back⟩ := more (by decide) (by decide)
  obtain ⟨stopped, zero⟩ := last (by decide)
  exact ⟨found, settled, atEnd (by decide) (by decide), turned, back, stopped, zero⟩

/- One past the highest number is no page at all, found out or not, where the last page was to stay. -/
theorem highestNotTurned :
    let highest : Pager := ⟨18446744073709551615, 1, 1⟩
    1 ≤ highest.perPage ∧ min (highest.current.toNat + 1) (max highest.pages.toNat 1) = 1 ∧
    highest.next? = none ∧ highest.next.current.toNat = 0 ∧ ¬highest.next.Settled := by
  intro highest
  refine ⟨by decide, by decide, by decide, by decide, ?_⟩
  intro settled
  exact absurd settled.first (by decide)

end Postboard.Pager
