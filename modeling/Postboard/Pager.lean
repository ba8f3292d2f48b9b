import Postboard.Plan
import Postboard.Json.Fields

/-! Paging: which page is shown, how many there are, and the stretch of posts that a page is. Pages
and posts are counted in 64 bits. `next?` and `window?` stop where a number needs more than that,
as `withTotal?` does at pages of no size; `next` and `window` go on with the bits that are left. -/
namespace Postboard

structure Pager where
  current : UInt64 := 1
  perPage : UInt64 := 20
  pages : UInt64 := 1
  deriving DecidableEq

namespace Pager

def new (perPage : UInt64) : Pager := { perPage := max perPage 1 }

def next (p : Pager) : Pager := { p with current := min (p.current + 1) (max p.pages 1) }

def next? (p : Pager) : Option Pager := if p.current.toNat + 1 < UInt64.size then some p.next else none

def forward (p : Pager) : Nat → Pager
  | 0 => p
  | steps + 1 => p.next.forward steps

def previous (p : Pager) : Pager :=
  let before := if p.current = 0 then 0 else p.current - 1
  { p with current := max (min before p.pages) 1 }

def reset (p : Pager) : Pager := { p with current := 1 }

def pagesFor (perPage total : UInt64) : UInt64 :=
  max (total / perPage + (if total % perPage = 0 then 0 else 1)) 1

/-- The pager of a result of `total` posts. The current page stays, even if it is now too far. -/
def withTotal (p : Pager) (total : UInt64) : Pager := { p with pages := pagesFor p.perPage total }

def withTotal? (p : Pager) (total : UInt64) : Option Pager :=
  if p.perPage = 0 then none else some (p.withTotal total)

def window (p : Pager) : Window := ⟨(max p.current 1 - 1) * p.perPage, p.perPage⟩

def window? (p : Pager) : Option Window :=
  if (p.current.toNat - 1) * p.perPage.toNat < UInt64.size then some p.window else none

def hasPrevious (p : Pager) : Bool := 1 < p.current

def hasNext (p : Pager) : Bool := p.current < p.pages

def showsControls (p : Pager) : Bool := 1 < p.pages

def label (p : Pager) : String := "Page " ++ p.current.toNat.repr ++ " of " ++ p.pages.toNat.repr

open Json

def toJson (p : Pager) : Value := .record [
  ("current_page", .ofNat p.current.toNat),
  ("items_per_page", .ofNat p.perPage.toNat),
  ("total_pages", .ofNat p.pages.toNat)]

def ofJson? (v : Value) : Option Pager := do
  match ← slots? [["current_page"], ["items_per_page"], ["total_pages"]] v with
  | [current, perPage, pages] =>
    return {
      current := ← current.required Value.natural?
      perPage := ← perPage.required Value.natural?
      pages := ← pages.required Value.natural? }
  | _ => none

end Pager
end Postboard
