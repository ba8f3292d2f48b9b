import Mathlib
import Postboard.Proofs.Pager.Counting
import Postboard.Proofs.Session.Fetches

/-! Where a session stands in its pages. A later total can leave the current page beyond the last one, so
the pages now counted do not bound it; what does is that it was within the pages of some total, and that
no page is reached by fewer steps than its number. -/
namespace Postboard

namespace Pager

/-- After so many steps the pages are those of the total, and the current page is one that 64 bits reach. -/
structure Placed (size total steps : Nat) (p : Pager) : Prop where
  perPage : p.perPage.toNat = size
  pages : p.pages.toNat = pageCount size total
  first : 1 ≤ p.current.toNat
  near : p.current.toNat ≤ steps + 1
  starts : (p.current.toNat - 1) * size < UInt64.size

variable {size total steps : Nat} {p : Pager}

theorem placedNew (perPage : UInt64) : Placed (max perPage.toNat 1) 0 0 (new perPage) := by
  refine ⟨toNatMax _ _, ?_, Nat.le_refl 1, Nat.le_refl 1, by simp [new, UInt64.size]⟩
  rw [pageCountZero (by omega)]
  rfl

theorem placedLater (placed : Placed size total steps p) : Placed size total (steps + 1) p :=
  { placed with near := Nat.le_succ_of_le placed.near }

theorem placedReset (placed : Placed size total steps p) : Placed size total (steps + 1) p.reset :=
  ⟨placed.perPage, placed.pages, Nat.le_refl 1, Nat.le_add_left 1 _, by simp [reset, UInt64.size]⟩

theorem placedNext (positive : 0 < size) (countable : total < UInt64.size) (few : steps + 2 < UInt64.size)
    (placed : Placed size total steps p) : Placed size total (steps + 1) p.next := by
  have first := placed.first
  have near := placed.near
  have pages := placed.pages
  have current := nextCurrent (p := p) (by omega)
  refine ⟨placed.perPage, pages, by omega, by omega, ?_⟩
  have within : p.next.current.toNat ≤ pageCount size total := by
    have least : 1 ≤ pageCount size total := Nat.le_max_left _ _
    omega
  have start := pageStarts positive within
  simp only [UInt64.size] at countable ⊢
  omega

theorem placedPrevious (placed : Placed size total steps p) : Placed size total (steps + 1) p.previous := by
  have first := placed.first
  have near := placed.near
  have current := previousCurrent p
  refine ⟨placed.perPage, placed.pages, by omega, by omega, ?_⟩
  have back := Nat.mul_le_mul_right size (show p.previous.current.toNat - 1 ≤ p.current.toNat - 1 by omega)
  exact Nat.lt_of_le_of_lt back placed.starts

theorem placedTotal (positive : 0 < size) (placed : Placed size total steps p) (found : UInt64) :
    Placed size found.toNat steps (p.withTotal found) := by
  have perPage := placed.perPage
  refine ⟨perPage, ?_, placed.first, placed.near, placed.starts⟩
  rw [withTotal, pagesForCount (by omega), perPage]

theorem placedWindow (placed : Placed size total steps p) :
    p.window.offset.toNat = (p.current.toNat - 1) * size ∧ p.window.limit.toNat = size := by
  have perPage := placed.perPage
  have starts := placed.starts
  refine ⟨?_, perPage⟩
  rw [windowOffset (by rwa [perPage]), perPage]

theorem placedFound (positive : 0 < size) (few : steps + 2 < UInt64.size) (placed : Placed size total steps p) :
    p.next? = some p.next ∧ p.window? = some p.window ∧ ∀ found, p.withTotal? found = some (p.withTotal found) := by
  have near := placed.near
  have perPage := placed.perPage
  have starts := placed.starts
  have sized : p.perPage ≠ 0 := by
    intro zero
    rw [zero, UInt64.toNat_zero] at perPage
    omega
  rw [← perPage] at starts
  exact ⟨if_pos (by omega), if_pos starts, fun _ => if_neg sized⟩

end Pager

namespace Session
open Pager (Placed)

variable {size steps : Nat} {s : Session}

theorem placedEdit (positive : 0 < size) (few : steps + 2 < UInt64.size)
    (placed : Placed size s.total.toNat steps s.pager) {action : Action} (edit : action.isEdit) :
    Placed size (s.act action).1.total.toNat (steps + 1) (s.act action).1.pager := by
  rw [(editKeeps s edit).total]
  obtain same | ⟨filters, same⟩ | rfl | rfl := editCases s edit
  · rw [same]
    exact Pager.placedLater placed
  · rw [same]
    exact Pager.placedReset placed
  · exact Pager.placedNext positive s.total.toNat_lt few placed
  · exact Pager.placedPrevious placed

theorem placedComplete (positive : 0 < size) (placed : Placed size s.total.toNat steps s.pager)
    (n : UInt64) (r : Response) :
    Placed size (s.complete n r).session.total.toNat (steps + 1) (s.complete n r).session.pager := by
  obtain ⟨_, same⟩ | ⟨page, _, _, same⟩ | ⟨e, _, _, same⟩ := s.completeCases n r
  · rw [same]
    exact Pager.placedLater placed
  · rw [same]
    exact Pager.placedTotal positive (Pager.placedLater placed) page.total
  · rw [same]
    exact Pager.placedLater placed

theorem placedAct (positive : 0 < size) (few : steps + 2 < UInt64.size)
    (placed : Placed size s.total.toNat steps s.pager) (action : Action) :
    Placed size (s.act action).1.total.toNat (steps + 1) (s.act action).1.pager := by
  obtain edit | rfl | ⟨n, r, rfl⟩ | ⟨source, rfl⟩ := action.kinds
  · exact placedEdit positive few placed edit
  · exact Pager.placedLater placed
  · exact placedComplete positive placed n r
  · show Placed size (s.refresh source).session.total.toNat _ (s.refresh source).session.pager
    rw [refreshSession]
    exact placedComplete positive (s := s.issue.1) placed _ _

theorem placedRun (settings : Settings) (actions : List Action) (few : actions.length + 1 < UInt64.size) :
    Placed (max settings.perPage.toNat 1) ((new settings).run actions).1.total.toNat actions.length
      ((new settings).run actions).1.pager := by
  induction actions using List.reverseRecOn with
  | nil => exact Pager.placedNew settings.perPage
  | append_singleton actions action ih =>
    rw [List.length_append, List.length_singleton] at few ⊢
    rw [runSnoc]
    exact placedAct (by omega) few (ih (by omega)) action

/- In a session it makes no difference whether anyone looks for numbers that need more than 64 bits. -/
theorem runFound (settings : Settings) (actions : List Action) (few : actions.length + 2 < UInt64.size) :
    let p := ((new settings).run actions).1.pager
    p.next? = some p.next ∧ p.window? = some p.window ∧ ∀ found, p.withTotal? found = some (p.withTotal found) :=
  Pager.placedFound (by omega) few (placedRun settings actions (by omega))

theorem pagingExact (settings : Settings) (actions : List Action) (few : actions.length < 2 ^ 63) :
    let s := ((new settings).run actions).1
    let size := max settings.perPage.toNat 1
    s.pager.perPage.toNat = size ∧
    1 ≤ s.pager.current.toNat ∧
    s.pager.pages.toNat = max 1 ((s.total.toNat + size - 1) / size) ∧
    s.plan.window.offset.toNat = (s.pager.current.toNat - 1) * size ∧
    s.plan.window.limit.toNat = size ∧
    s.nextPage.pager.current.toNat = min (s.pager.current.toNat + 1) s.pager.pages.toNat := by
  intro s size
  have placed : Placed size s.total.toNat actions.length s.pager :=
    placedRun settings actions (by simp only [UInt64.size]; omega)
  have near := placed.near
  have window := Pager.placedWindow placed
  have least : 1 ≤ s.pager.pages.toNat := placed.pages ▸ Nat.le_max_left _ _
  have next := Pager.nextCurrent (p := s.pager) (by simp only [UInt64.size]; omega)
  rw [Nat.max_eq_left least] at next
  exact ⟨placed.perPage, placed.first, placed.pages, window.1, window.2, next⟩

/-- A result of two pages of 2^63 posts, of which the second is turned to, has shrunk when it is fetched again. -/
def shrunk : List Action := [
  .issue, .complete 1 (.ok ⟨[], 18446744073709551615⟩), .nextPage, .nextPage, .issue, .complete 2 (.ok ⟨[], 5⟩)]

theorem shrunkExact :
    let s := ((new { perPage := 9223372036854775808 }).run shrunk).1
    shrunk.length < 2 ^ 63 ∧ s.pager.pages.toNat = 1 ∧ s.pager.current.toNat = 2 ∧
    s.plan.window.offset.toNat = (s.pager.current.toNat - 1) * 9223372036854775808 := by
  intro s
  have exact := pagingExact { perPage := 9223372036854775808 } shrunk (by decide)
  exact ⟨by decide, exact.2.2.1, rfl, exact.2.2.2.1⟩

end Session
end Postboard
