import Postboard.Command.Query
import Postboard.Proofs.Session.Emptiness

/-! The page that the search command prints, beside the one that a viewer comes to. The command counts what it
finds and turns the pages on its own; a viewer sets the filters, fetches, turns the pages and fetches again.
That a snapshot can be read, and how the command's arguments become filters, is not a question here. -/
namespace Postboard
open Pager (pageCount)

namespace Session

theorem runTurns (s : Session) (turns : Nat) :
    (s.run (List.replicate turns .nextPage)).1 = { s with pager := s.pager.forward turns } := by
  induction turns generalizing s with
  | zero => rfl
  | succ turns ih => exact ih s.nextPage

theorem setFiltersNew (settings : Settings) (filters : Filters) :
    ((new settings).setFilters filters).1 = { new settings with filters } := by
  by_cases same : filters = (new settings).filters
  · rw [setFilters, if_pos same, same]
  · rw [setFilters, if_neg same]
    rfl

def turningTo (store : Store) (filters : Filters) (page : UInt64) : List Action :=
  .setFilters filters :: .refresh store.source :: List.replicate (max page.toNat 1 - 1) .nextPage

end Session

namespace Command.Query
open Session (new turningTo)

variable (store : Store) (filters : Filters) (page : UInt64)

/- Both begin with the first page of what the filters ask for, and turn the page equally often. -/
theorem turnedSession :
    ((new {}).run (turningTo store filters page)).1 =
      { ({ new {} with filters } : Session).issue.1.showing (store.execute (filters.plan (new {}).pager.window)) with
        pager := pager store filters page } := by
  have turns : max page.toNat 1 - 1 = page.toNat - 1 := by omega
  have run : ((new {}).run (turningTo store filters page)).1 =
      ((((new {}).setFilters filters).1.refresh store.source).session.run
        (List.replicate (max page.toNat 1 - 1) .nextPage)).1 := rfl
  rw [run, Session.setFiltersNew, Session.refreshStore, Session.runTurns, turns]
  rfl

theorem pagerPerPage : (pager store filters page).perPage = 20 := Pager.forwardPerPage _ _

theorem pagerPages : (pager store filters page).pages.toNat = pageCount 20 (store.count filters.clauses) := by
  have total : (store.execute (filters.plan (new {}).pager.window)).total.toNat = store.count filters.clauses :=
    store.executeTotal _
  rw [pager, Pager.forwardPages, ← total]
  exact Pager.pagesForCount (by decide) _

theorem pagerCurrent :
    (pager store filters page).current.toNat =
      min (max page.toNat 1) (pageCount 20 (store.count filters.clauses)) := by
  have pages := pagerPages store filters page
  have bound := store.countBound filters.clauses
  have some : 1 ≤ pageCount 20 (store.count filters.clauses) := Nat.le_max_left _ _
  have few : pageCount 20 (store.count filters.clauses) + 1 < UInt64.size := by
    simp only [UInt64.size, pageCount] at bound ⊢
    omega
  have asked : 1 + (page.toNat - 1) = max page.toNat 1 := by omega
  rw [pager, Pager.forwardPages] at pages
  rw [← pages] at some few ⊢
  rw [pager, Pager.forwardCurrent some few some, ← asked]
  rfl

theorem pagerOffset : (pager store filters page).window.offset.toNat < max (store.count filters.clauses) 1 := by
  have current := pagerCurrent store filters page
  have perPage : (pager store filters page).perPage.toNat = 20 := congrArg UInt64.toNat (pagerPerPage store filters page)
  have within : (pager store filters page).current.toNat ≤ pageCount 20 (store.count filters.clauses) := by omega
  have starts := Pager.pageStarts (by decide) within
  have bound := store.countBound filters.clauses
  have fits : ((pager store filters page).current.toNat - 1) * (pager store filters page).perPage.toNat < UInt64.size := by
    rw [perPage]
    omega
  rw [Pager.windowOffset fits, perPage]
  exact starts

/- The count is the same on every page, so a viewer who fetches again stays where the command is. -/
theorem pagerSettled (window : Window) :
    (pager store filters page).withTotal (store.execute (filters.plan window)).total = pager store filters page := by
  have pages : Pager.pagesFor (pager store filters page).perPage (store.execute (filters.plan window)).total =
      (pager store filters page).pages := by
    rw [pager, Pager.forwardPerPage, Pager.forwardPages]
    rfl
  rw [Pager.withTotal, pages]

theorem turnedEmptyIff {s : Session} (turned : s.pager = pager store filters page) (asked : s.filters = filters) :
    (s.refresh store.source).session.posts = [] ↔ store.count filters.clauses = 0 := by
  have offset := pagerOffset store filters page
  have perPage : s.pager.perPage = 20 := turned ▸ pagerPerPage store filters page
  rw [Session.refreshEmptyIff store (by rw [perPage]; decide), turned, asked]
  omega

theorem printsViewersPage (o : Options) :
    let s := ((new {}).run (turningTo store filters o.page)).1
    let t := (s.refresh store.source).session
    let pager := pager store filters o.page
    let n := store.posts.countP (Plan.selects filters.clauses)
    let pages := max 1 ((n + 19) / 20)
    filters.plan pager.window = s.plan ∧
    pager.current.toNat = min (max o.page.toNat 1) pages ∧ pager.pages.toNat = pages ∧
    (t.posts = [] ↔ n = 0) ∧
    lines o store filters =
      (if o.remote then (Request.ofPlan {} s.plan).queryString else String.ofList (s.plan.toJson.pretty 0)) ::
      (t.headline ++ " | " ++ t.pager.label) ::
      t.posts.map row ++
      (if n = 0 then ["No tweets found"] else []) ++
      ["快照共 " ++ (Statistics.ofPosts store.posts).posts.repr ++ " 条推文，平均情感 " ++
        (Statistics.ofPosts store.posts).average.write] := by
  intro s t pager n pages
  have session : s = _ := turnedSession store filters o.page
  have asked : s.filters = filters := by rw [session]; rfl
  have turned : s.pager = pager := by rw [session]
  have plan : filters.plan pager.window = s.plan := by rw [← turned, ← asked]; rfl
  have fetched : t = s.issue.1.showing (store.execute s.plan) := Session.refreshStore s store
  have posts : (store.execute s.plan).posts = t.posts := by rw [fetched]; rfl
  have headline : t.headline = filters.describe t.posts.length := by
    rw [Session.headline, Session.refreshFilters, asked]
  have settled : t.pager = pager := by
    have again : t.pager = s.pager.withTotal (store.execute s.plan).total := by rw [fetched]; rfl
    rw [again, turned, ← plan]
    exact pagerSettled store filters o.page pager.window
  have nothing : t.posts = [] ↔ n = 0 := turnedEmptyIff store filters o.page turned asked
  have none : (if t.posts.isEmpty then ["No tweets found"] else []) = if n = 0 then ["No tweets found"] else [] := by
    simp only [List.isEmpty_iff, nothing]
  refine ⟨plan, pagerCurrent store filters o.page, pagerPages store filters o.page, nothing, ?_⟩
  rw [lines, plan, posts, none, headline, settled]

end Command.Query
end Postboard
