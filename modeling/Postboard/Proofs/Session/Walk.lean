import Postboard.Proofs.Pager.Counting
import Postboard.Proofs.Session.Fetches
import Postboard.Proofs.Store.Order

/-! Paging through a result from its first page to its last. What the pages show, put together, is
what the store finds, nothing lost and nothing twice, as long as the store stays the same. -/
namespace Postboard

def Store.found (store : Store) (filters : Filters) : List Post := store.matching filters.clauses {}

namespace Session
open Pager (pageCount)

inductive Walk (source : Source) : Session → List Session → Prop where
  | last {s : Session} (done : s.pager.hasNext = false) : Walk source s [s]
  | turn {s : Session} {visits : List Session} (more : s.pager.hasNext = true)
      (rest : Walk source (s.nextPage.refresh source).session visits) : Walk source s (s :: visits)

theorem walkUnique {source : Source} {s : Session} {visits others : List Session}
    (walk : Walk source s visits) (other : Walk source s others) : others = visits := by
  induction walk generalizing others with
  | last done =>
    cases other with
    | last => rfl
    | turn more => simp [done] at more
  | turn more rest ih =>
    cases other with
    | last done => simp [done] at more
    | turn _ rest => rw [ih rest]

structure OnPage (store : Store) (filters : Filters) (size k : Nat) (s : Session) : Prop where
  asked : s.filters = filters
  perPage : s.pager.perPage.toNat = size
  current : s.pager.current.toNat = k
  pages : s.pager.pages.toNat = pageCount size (store.found filters).length
  total : s.total.toNat = (store.found filters).length
  posts : s.posts = ((store.found filters).drop ((k - 1) * size)).take size

theorem refreshStore (s : Session) (store : Store) :
    (s.refresh store.source).session = s.issue.1.showing (store.execute s.plan) := by
  rw [refreshSession, Store.source, completeOk]

theorem refreshTotal (store : Store) (s : Session) :
    (s.refresh store.source).session.total.toNat = (store.found s.filters).length := by
  rw [refreshStore, Store.found, Store.matchingLength]
  exact store.executeTotal s.plan

theorem refreshPages (store : Store) {s : Session} (positive : 0 < s.pager.perPage.toNat) :
    (s.refresh store.source).session.pager.pages.toNat =
      pageCount s.pager.perPage.toNat (store.found s.filters).length := by
  rw [← refreshTotal, refreshStore]
  exact Pager.pagesForCount positive _

theorem refreshPosts (store : Store) (s : Session) :
    (s.refresh store.source).session.posts =
      ((store.found s.filters).drop s.pager.window.offset.toNat).take s.pager.perPage.toNat := by
  rw [refreshStore]
  rfl

variable {store : Store} {filters : Filters} {size k : Nat} {s : Session}

theorem refreshOnPage (positive : 0 < size) (within : k ≤ pageCount size (store.found filters).length)
    (same : s.filters = filters) (perPage : s.pager.perPage.toNat = size) (current : s.pager.current.toNat = k) :
    OnPage store filters size k (s.refresh store.source).session := by
  subst same perPage current
  have start := Pager.pageStarts positive within
  have length : (store.found s.filters).length = _ := store.matchingLength s.filters.clauses {}
  have bound := List.countP_le_length (p := Plan.selects s.filters.clauses) (l := store.posts)
  have countable := store.countable
  have pages := refreshPages store positive
  have total := refreshTotal store s
  have posts := refreshPosts store s
  rw [Pager.windowOffset (by omega)] at posts
  rw [refreshStore] at pages total posts ⊢
  exact ⟨rfl, rfl, rfl, pages, total, posts⟩

theorem nextOnPage (positive : 0 < size) (on : OnPage store filters size k s)
    (more : k < pageCount size (store.found filters).length) :
    OnPage store filters size (k + 1) (s.nextPage.refresh store.source).session := by
  have pages := on.pages
  have current := on.current
  have small := s.pager.pages.toNat_lt
  apply refreshOnPage (s := s.nextPage) positive more on.asked on.perPage
  show s.pager.next.current.toNat = k + 1
  rw [Pager.nextCurrent (by rw [UInt64.size]; omega), current, pages]
  omega

theorem hasNextOnPage (on : OnPage store filters size k s) :
    s.pager.hasNext ↔ k < pageCount size (store.found filters).length := by
  rw [Pager.hasNextIff, on.current, on.pages]

structure Covers (store : Store) (filters : Filters) (size k : Nat) (visits : List Session) : Prop where
  count : visits.length + k = pageCount size (store.found filters).length + 1
  full : ∀ t ∈ visits.dropLast, t.posts.length = size
  totals : ∀ t ∈ visits, t.total.toNat = (store.found filters).length
  posts : visits.flatMap (·.posts) = (store.found filters).drop ((k - 1) * size)

theorem coversLast (positive : 0 < size) (on : OnPage store filters size k s)
    (last : k = pageCount size (store.found filters).length) :
    Covers store filters size k [s] := by
  refine ⟨by simp [← last, Nat.add_comm], by simp, by simpa using on.total, ?_⟩
  have ends := Pager.lastPageEnds positive (store.found filters).length
  rw [← last] at ends
  rw [List.flatMap_singleton, on.posts, List.take_of_length_le]
  rw [List.length_drop]
  cases k with
  | zero => omega
  | succ k =>
    rw [Nat.succ_mul] at ends
    simp only [Nat.add_sub_cancel]
    omega

theorem coversTurn {visits : List Session} (positive : 0 < size) (first : 1 ≤ k)
    (on : OnPage store filters size k s) (more : k < pageCount size (store.found filters).length)
    (rest : Covers store filters size (k + 1) visits) : Covers store filters size k (s :: visits) := by
  have before := Pager.fullBeforeLast positive more first
  obtain ⟨k, rfl⟩ : ∃ j, k = j + 1 := ⟨k - 1, by omega⟩
  rw [Nat.succ_mul] at before
  have here : s.posts.length = size := by
    rw [on.posts, List.length_take, List.length_drop, Nat.add_sub_cancel]
    omega
  have count := rest.count
  have nonempty : visits ≠ [] := by
    intro empty
    simp only [empty, List.length_nil] at count
    omega
  refine ⟨by rw [List.length_cons]; omega, ?_, ?_, ?_⟩
  · rw [List.dropLast_cons_of_ne_nil nonempty]
    intro t member
    rcases List.mem_cons.1 member with rfl | later
    · exact here
    · exact rest.full t later
  · intro t member
    rcases List.mem_cons.1 member with rfl | later
    · exact on.total
    · exact rest.totals t later
  · rw [List.flatMap_cons, rest.posts, on.posts, Nat.add_sub_cancel, Nat.add_sub_cancel, Nat.succ_mul,
      ← List.drop_drop, List.take_append_drop]

/- The induction is on the pages that are left. -/
theorem walkFrom (positive : 0 < size) (first : 1 ≤ k)
    (within : k ≤ pageCount size (store.found filters).length)
    (on : OnPage store filters size k s) :
    ∃ visits, Walk store.source s visits ∧ Covers store filters size k visits := by
  induction left : pageCount size (store.found filters).length - k generalizing k s with
  | zero =>
    have last : k = pageCount size (store.found filters).length := by omega
    have done : s.pager.hasNext = false := by
      rw [Bool.eq_false_iff]
      intro next
      have more := (hasNextOnPage on).1 next
      omega
    exact ⟨[s], .last done, coversLast positive on last⟩
  | succ left ih =>
    have more : k < pageCount size (store.found filters).length := by omega
    obtain ⟨visits, walk, covers⟩ := ih (by omega) more (nextOnPage positive on more) (by omega)
    exact ⟨s :: visits, .turn ((hasNextOnPage on).2 more) walk, coversTurn positive first on more covers⟩

theorem firstOnPage (settings : Settings) (filters : Filters) (store : Store) :
    OnPage store filters (max settings.perPage.toNat 1) 1
      (((new settings).setFilters filters).1.refresh store.source).session := by
  have perPage : (max settings.perPage 1).toNat = max settings.perPage.toNat 1 := Pager.toNatMax _ _
  apply refreshOnPage (by omega) (Nat.le_max_left _ _)
  · unfold setFilters
    split
    · rename_i same
      exact same.symm
    · rfl
  · rw [(setFiltersKeeps (new settings) filters).perPage]
    exact perPage
  · unfold setFilters
    split <;> rfl

theorem walkShowsEachOnce (settings : Settings) (filters : Filters) (store : Store) :
    let size := max settings.perPage.toNat 1
    let n := store.posts.countP (Plan.selects filters.clauses)
    let start := (((new settings).setFilters filters).1.refresh store.source).session
    ∃ visits, Walk store.source start visits ∧ (∀ others, Walk store.source start others → others = visits) ∧
      visits.length = max 1 ((n + size - 1) / size) ∧
      (∀ s ∈ visits.dropLast, s.posts.length = size) ∧
      (∀ s ∈ visits, s.total.toNat = n) ∧
      visits.flatMap (·.posts) = store.matching filters.clauses {} ∧
      (visits.flatMap (·.posts)).Perm (store.posts.filter (Plan.selects filters.clauses)) ∧
      (visits.flatMap (·.posts)).Pairwise fun a b => (({} : SortKey).comparePosts a b).isLE := by
  intro size n start
  have length : (store.found filters).length = n := store.matchingLength filters.clauses {}
  obtain ⟨visits, walk, covers⟩ := walkFrom (by omega) (Nat.le_refl 1) (Nat.le_max_left _ _)
    (firstOnPage settings filters store)
  have all : visits.flatMap (·.posts) = store.found filters := by simpa using covers.posts
  refine ⟨visits, walk, fun others other => walkUnique walk other, ?_, covers.full, ?_, all, ?_, ?_⟩
  · have count := covers.count
    rw [length] at count
    exact Nat.add_right_cancel count
  · simpa only [length] using covers.totals
  · rw [all]
    exact store.matchingPerm filters.clauses {}
  · rw [all]
    exact store.matchingSorted filters.clauses {}

end Session
end Postboard
