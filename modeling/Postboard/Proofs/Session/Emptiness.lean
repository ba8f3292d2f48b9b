import Postboard.Proofs.Session.Pages
import Postboard.Proofs.Session.Walk

/-! Whether an empty page means that nothing matches. A refresh finds out how many posts match only after the
page to fetch was chosen, so a page that was turned to while another total was in force can be beyond the end. -/
namespace Postboard

structure Session.StatusTells (store : Store) (s : Session) : Prop where
  empty : s.status = .empty ↔ ∀ p ∈ store.posts, ¬Plan.selects s.filters.clauses p
  loaded : (∃ p ∈ store.posts, Plan.selects s.filters.clauses p) → s.status = .loaded ∧ s.posts ≠ []

namespace Store

def count (store : Store) (clauses : List Clause) : Nat := store.posts.countP (Plan.selects clauses)

theorem countBound (store : Store) (clauses : List Clause) : store.count clauses < UInt64.size :=
  Nat.lt_of_le_of_lt List.countP_le_length store.countable

theorem foundLength (store : Store) (filters : Filters) : (store.found filters).length = store.count filters.clauses :=
  store.matchingLength filters.clauses {}

end Store

namespace Session
open Pager (pageCount)

variable {store : Store} {s : Session}

theorem refreshPostsLength (store : Store) (s : Session) :
    (s.refresh store.source).session.posts.length =
      min (store.count s.filters.clauses - s.pager.window.offset.toNat) s.pager.perPage.toNat := by
  rw [refreshPosts, List.length_take, List.length_drop, Store.foundLength, Nat.min_comm]

theorem refreshFilters (store : Store) (s : Session) : (s.refresh store.source).session.filters = s.filters := by
  rw [refreshStore]
  rfl

theorem refreshEmptyIff (store : Store) {s : Session} (positive : 0 < s.pager.perPage.toNat) :
    (s.refresh store.source).session.posts = [] ↔
      store.count s.filters.clauses ≤ s.pager.window.offset.toNat := by
  rw [← List.length_eq_zero_iff, refreshPostsLength]
  omega

theorem refreshStatus (store : Store) {s : Session} (positive : 0 < s.pager.perPage.toNat) :
    (s.refresh store.source).session.status =
      if store.count s.filters.clauses ≤ s.pager.window.offset.toNat then .empty else .loaded := by
  simp only [← refreshEmptyIff store positive, refreshStore, showing, List.isEmpty_iff]

theorem countZeroIff (store : Store) (clauses : List Clause) :
    store.count clauses = 0 ↔ ∀ p ∈ store.posts, ¬Plan.selects clauses p :=
  List.countP_eq_zero

theorem statusTellsIff (positive : 0 < s.pager.perPage.toNat) :
    StatusTells store (s.refresh store.source).session ↔
      store.count s.filters.clauses = 0 ∨ s.pager.window.offset.toNat < store.count s.filters.clauses := by
  have filters := refreshFilters store s
  have status := refreshStatus store positive
  have nothing := countZeroIff store s.filters.clauses
  by_cases beyond : store.count s.filters.clauses ≤ s.pager.window.offset.toNat
  · rw [if_pos beyond] at status
    constructor
    · intro tells
      have absent := tells.empty.1 status
      rw [filters] at absent
      exact .inl (nothing.2 absent)
    · intro counted
      have absent := nothing.1 (by omega)
      refine ⟨?_, ?_⟩
      · rw [status, filters]
        exact ⟨fun _ => absent, fun _ => rfl⟩
      · rw [filters]
        rintro ⟨p, stored, selected⟩
        exact absurd selected (absent p stored)
  · rw [if_neg beyond] at status
    have shown : (s.refresh store.source).session.posts ≠ [] := mt (refreshEmptyIff store positive).1 beyond
    refine ⟨fun _ => .inr (Nat.lt_of_not_le beyond), fun _ => ⟨?_, fun _ => ⟨status, shown⟩⟩⟩
    rw [status, filters, ← nothing]
    exact ⟨nofun, fun zero => absurd (zero ▸ Nat.zero_le _) beyond⟩

def TurnsCounted (s : Session) (actions : List Action) : Prop :=
  ∀ before after, actions = before ++ .nextPage :: after →
    ∀ f ∈ (s.sent before).getLast?, (s.run before).1.filters.clauses = f.plan.clauses

def OnStore (store : Store) (actions : List Action) : Prop :=
  ∀ action ∈ actions, action.isEdit ∨ action = .refresh store.source

def lastCount (store : Store) (fetches : List Fetch) : Nat :=
  (fetches.getLast?.map fun f => store.count f.plan.clauses).getD 0

/- The pages of a run on one store are those of the filters at the latest refresh, whatever is asked for now. -/
theorem onStorePages {actions : List Action} (positive : 0 < s.pager.perPage.toNat) (start : s.pager.pages = 1)
    (onStore : OnStore store actions) :
    (s.run actions).1.pager.pages.toNat = pageCount s.pager.perPage.toNat (lastCount store (s.sent actions)) := by
  induction actions using List.reverseRecOn with
  | nil =>
    show s.pager.pages.toNat = pageCount s.pager.perPage.toNat 0
    rw [start, Pager.pageCountZero positive]
    rfl
  | append_singleton actions action ih =>
    have before := ih fun a inside => onStore a (List.mem_append_left _ inside)
    rw [runSnoc, sentSnoc]
    rcases onStore action (by simp) with edit | rfl
    · rw [editSendsNothing _ edit, (editKeeps _ edit).pages, before, Option.toList_none, List.append_nil]
    · have pages := refreshPages store (s := (s.run actions).1) (by rwa [runKeepsPerPage])
      rw [runKeepsPerPage, Store.foundLength] at pages
      rw [fetchOf, Option.toList_some, lastCount, List.getLast?_append]
      exact pages

def Within (store : Store) (s : Session) : Prop :=
  s.pager.current.toNat ≤ pageCount s.pager.perPage.toNat (store.count s.filters.clauses)

theorem withinAct (within : Within store s) {action : Action}
    (onStore : action.isEdit ∨ action = .refresh store.source)
    (turn : action = .nextPage →
      s.pager.pages.toNat ≤ pageCount s.pager.perPage.toNat (store.count s.filters.clauses)) :
    Within store (s.act action).1 := by
  have least : ∀ size n, 1 ≤ pageCount size n := fun size n => Nat.le_max_left _ _
  rcases onStore with edit | rfl
  · obtain same | ⟨filters, same⟩ | rfl | rfl := editCases s edit
    · rwa [same]
    · rw [same]
      exact least _ _
    · show s.pager.next.current.toNat ≤ pageCount s.pager.perPage.toNat (store.count s.filters.clauses)
      have bounded : s.pager.next.current.toNat ≤ max s.pager.pages.toNat 1 := by
        rw [Pager.next, Pager.toNatMin, Pager.toNatMax]
        exact Nat.min_le_right _ _
      exact Nat.le_trans bounded (Nat.max_le.2 ⟨turn rfl, least _ _⟩)
    · show s.pager.previous.current.toNat ≤ pageCount s.pager.perPage.toNat (store.count s.filters.clauses)
      have bounded := Pager.previousCurrent s.pager
      have first := least s.pager.perPage.toNat (store.count s.filters.clauses)
      unfold Within at within
      omega
  · show Within store (s.refresh store.source).session
    rw [refreshStore]
    exact within

theorem onStoreWithin {actions : List Action} (positive : 0 < s.pager.perPage.toNat) (current : s.pager.current = 1)
    (pages : s.pager.pages = 1) (onStore : OnStore store actions) (counted : TurnsCounted s actions) :
    Within store (s.run actions).1 := by
  induction actions using List.reverseRecOn with
  | nil =>
    show s.pager.current.toNat ≤ _
    rw [current]
    exact Nat.le_max_left _ _
  | append_singleton actions action ih =>
    have before : OnStore store actions := fun a inside => onStore a (List.mem_append_left _ inside)
    have within := ih before fun start rest split => counted start (rest ++ [action]) (by simp [split])
    rw [runSnoc]
    apply withinAct within (onStore action (by simp))
    rintro rfl
    rw [onStorePages positive pages before, runKeepsPerPage]
    cases last : (s.sent actions).getLast? with
    | none =>
      have nothing : lastCount store (s.sent actions) = 0 := by rw [lastCount, last]; rfl
      rw [nothing, Pager.pageCountZero positive]
      exact Nat.le_max_left _ _
    | some f =>
      have asked := counted actions [] rfl f last
      rw [lastCount, last, asked]
      exact Nat.le_refl _

theorem emptyPastTheEnd (settings : Settings) (store : Store) (actions : List Action)
    (onStore : OnStore store actions) :
    let s := ((new settings).run actions).1
    let t := (s.refresh store.source).session
    let n := store.posts.countP (Plan.selects s.filters.clauses)
    let offset := s.plan.window.offset.toNat
    t.filters = s.filters ∧
    t.status = (if n ≤ offset then .empty else .loaded) ∧
    t.posts.length = min (n - offset) (max settings.perPage.toNat 1) ∧
    (StatusTells store t ↔ n = 0 ∨ offset < n) ∧
    (TurnsCounted (new settings) actions → StatusTells store t) := by
  intro s t n offset
  have size : s.pager.perPage.toNat = max settings.perPage.toNat 1 := by
    rw [runKeepsPerPage]
    exact Pager.toNatMax _ _
  have positive : 0 < s.pager.perPage.toNat := by omega
  have tells : StatusTells store t ↔ n = 0 ∨ offset < n := statusTellsIff positive
  refine ⟨refreshFilters store s, refreshStatus store positive, size ▸ refreshPostsLength store s, tells, ?_⟩
  intro counted
  have within : Within store s := onStoreWithin (by rwa [← runKeepsPerPage _ actions]) rfl rfl onStore counted
  have starts : (s.pager.current.toNat - 1) * s.pager.perPage.toNat < max n 1 := Pager.pageStarts positive within
  have countable : n < UInt64.size := Nat.lt_of_le_of_lt List.countP_le_length store.countable
  have start : offset = (s.pager.current.toNat - 1) * s.pager.perPage.toNat := Pager.windowOffset (by omega)
  rw [tells]
  omega

def labelledPost (id : String) (sentiment : Sentiment) : Post :=
  { id, text := "rally", username := "u", sentiment := some sentiment
    createdAt := .midnight ⟨739311, by decide, by decide⟩ }

def labelledPair : Store := ⟨[labelledPost "1" .positive, labelledPost "2" .negative], by decide⟩

/-- The page is turned while both posts are counted, and one of them is left out only then. -/
def turnedCounted : List Action := [.refresh labelledPair.source, .nextPage, .setSentiment (some .positive)]

theorem turnedCountedTells :
    OnStore labelledPair turnedCounted ∧ TurnsCounted (new { perPage := 1 }) turnedCounted ∧
    StatusTells labelledPair (((new { perPage := 1 }).run turnedCounted).1.refresh labelledPair.source).session := by
  have onStore : OnStore labelledPair turnedCounted := by
    simp [OnStore, turnedCounted, Action.isEdit]
  have counted : TurnsCounted (new { perPage := 1 }) turnedCounted := by
    intro before after split f last
    simp only [turnedCounted, List.cons_eq_append_iff, List.cons.injEq] at split
    simp at split
    obtain ⟨rfl, rfl⟩ := split
    cases last
    rfl
  exact ⟨onStore, counted, (emptyPastTheEnd _ labelledPair turnedCounted onStore).2.2.2.2 counted⟩

def turnedTooFar : List Action := [.refresh labelledPair.source, .setSentiment (some .positive), .nextPage]

theorem turnedTooFarEmpty :
    let t := (((new { perPage := 1 }).run turnedTooFar).1.refresh labelledPair.source).session
    OnStore labelledPair turnedTooFar ∧ t.status = .empty ∧
    labelledPost "1" .positive ∈ labelledPair.posts ∧ Plan.selects t.filters.clauses (labelledPost "1" .positive) := by
  exact ⟨by simp [OnStore, turnedTooFar, Action.isEdit], by cbv, by decide, by decide⟩

end Session
end Postboard
