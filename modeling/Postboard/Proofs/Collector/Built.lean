import Postboard.Proofs.Collector.Held
import Postboard.Proofs.Store.Narrowing

/-! Snapshots that a collector builds. They hold what was collected, the newest post first, and a store that is asked
for everything answers in the same order, so neither the order in which posts came nor that in which they are stored
can be told from either. The time at which a snapshot is built is in its metadata alone. -/
namespace Postboard
open Std

def Post.Newer (a b : Post) : Prop :=
  b.createdAt.position < a.createdAt.position ∨ a.createdAt = b.createdAt ∧ a.id < b.id

instance (a b : Post) : Decidable (a.Newer b) := inferInstanceAs (Decidable (_ ∨ _))

structure Snapshot.Lists (s : Snapshot) (held : List Post) : Prop where
  perm : s.posts.Perm held
  ordered : s.posts.Pairwise Post.Newer
  count : s.metadata.count = UInt64.ofNat s.posts.length
  earliest : ∃ p ∈ s.posts, s.metadata.earliest = some p.createdAt ∧
    ∀ q ∈ s.posts, p.createdAt.position ≤ q.createdAt.position
  latest : ∃ p ∈ s.posts, s.metadata.latest = some p.createdAt ∧
    ∀ q ∈ s.posts, q.createdAt.position ≤ p.createdAt.position

namespace Post

variable {a b : Post}

theorem newerIff : a.Newer b ↔ ({} : SortKey).comparePosts a b = .lt := by
  have together : ¬a.createdAt.position < b.createdAt.position ∧ ¬b.createdAt.position < a.createdAt.position ↔
      a.createdAt = b.createdAt := by
    constructor
    · rintro ⟨notBefore, notAfter⟩
      exact Instant.positionInjective (Int.le_antisymm (Int.not_lt.1 notAfter) (Int.not_lt.1 notBefore))
    · intro same
      rw [same]
      exact ⟨Int.lt_irrefl _, Int.lt_irrefl _⟩
  rw [← SortKey.precedesIff, Newer, ← together]
  rfl

theorem newerAsymm (first : a.Newer b) : ¬b.Newer a := by
  rw [newerIff] at first ⊢
  rw [OrientedCmp.gt_of_lt first]
  decide

theorem newerNotBefore (newer : a.Newer b) : b.createdAt.position ≤ a.createdAt.position := by
  rcases newer with later | ⟨together, -⟩
  · exact Int.le_of_lt later
  · exact Int.le_of_eq (congrArg Instant.position together.symm)

/- Posts with ids of their own never tie, so that what is in order is strictly so. -/
theorem newerOfSorted {posts : List Post} (distinct : (posts.map (·.id)).Nodup)
    (sorted : posts.Pairwise fun a b => (({} : SortKey).comparePosts a b).isLE) : posts.Pairwise Newer := by
  have apart : posts.Pairwise fun a b => a.id ≠ b.id := List.pairwise_map.1 distinct
  apply (sorted.and apart).imp
  rintro a b ⟨le, other⟩
  have untied : ({} : SortKey).comparePosts a b ≠ .eq := fun tied => other (SortKey.tiedId (SortKey.tiedIff.2 tied))
  rw [newerIff]
  cases order : ({} : SortKey).comparePosts a b with
  | lt => rfl
  | eq => exact absurd order untied
  | gt => rw [order] at le; contradiction

theorem newestUnique {one other : List Post} (perm : one.Perm other) (left : one.Pairwise Newer)
    (right : other.Pairwise Newer) : one = other :=
  perm.eq_of_pairwise (fun _ _ _ _ first second => absurd second (newerAsymm first)) left right

theorem headLatest {posts : List Post} (ordered : posts.Pairwise Newer) {p : Post} (head : posts.head? = some p) :
    ∀ q ∈ posts, q.createdAt.position ≤ p.createdAt.position := by
  obtain ⟨rest, rfl⟩ := List.head?_eq_some_iff.1 head
  intro q inside
  rcases List.mem_cons.1 inside with rfl | later
  · exact Int.le_refl _
  · exact newerNotBefore ((List.pairwise_cons.1 ordered).1 q later)

theorem lastEarliest {posts : List Post} (ordered : posts.Pairwise Newer) {p : Post} (last : posts.getLast? = some p) :
    ∀ q ∈ posts, p.createdAt.position ≤ q.createdAt.position := by
  obtain ⟨front, rfl⟩ := List.getLast?_eq_some_iff.1 last
  intro q inside
  rcases List.mem_append.1 inside with before | same
  · exact newerNotBefore ((List.pairwise_append.1 ordered).2.2 q before p (List.mem_singleton_self p))
  · exact Int.le_of_eq (congrArg (·.createdAt.position) (List.mem_singleton.1 same).symm)

end Post

namespace Snapshot.Lists

variable {s t : Snapshot} {held others : List Post}

theorem distinct (lists : s.Lists held) (ids : (held.map (·.id)).Nodup) : (s.posts.map (·.id)).Nodup :=
  (lists.perm.map _).nodup_iff.2 ids

theorem same (lists : s.Lists held) (also : t.Lists others) (perm : held.Perm others) :
    t.posts = s.posts ∧ t.metadata.count = s.metadata.count ∧ t.metadata.earliest = s.metadata.earliest ∧
      t.metadata.latest = s.metadata.latest := by
  have posts : t.posts = s.posts :=
    Post.newestUnique (also.perm.trans (perm.symm.trans lists.perm.symm)) also.ordered lists.ordered
  obtain ⟨p, inP, earliest, first⟩ := lists.earliest
  obtain ⟨q, inQ, earliest', first'⟩ := also.earliest
  obtain ⟨x, inX, latest, last⟩ := lists.latest
  obtain ⟨y, inY, latest', last'⟩ := also.latest
  rw [posts] at inQ first' inY last'
  have start : q.createdAt = p.createdAt := Instant.positionInjective (Int.le_antisymm (first' p inP) (first q inQ))
  have stop : y.createdAt = x.createdAt := Instant.positionInjective (Int.le_antisymm (last y inY) (last' x inX))
  refine ⟨posts, ?_, ?_, ?_⟩
  · rw [lists.count, also.count, posts]
  · rw [earliest, earliest', start]
  · rw [latest, latest', stop]

theorem matchingAll (lists : s.Lists held) (ids : (held.map (·.id)).Nodup) {store : Store}
    (perm : store.posts.Perm s.posts) : store.matching [] {} = s.posts := by
  have everything : store.posts.filter (Plan.selects []) = store.posts := List.filter_true _
  have found : (store.matching [] {}).Perm s.posts := ((store.matchingPerm [] {}).trans (.of_eq everything)).trans perm
  have distinct : ((store.matching [] {}).map (·.id)).Nodup := (found.map _).nodup_iff.2 (lists.distinct ids)
  exact Post.newestUnique found (Post.newerOfSorted distinct (store.matchingSorted [] {})) lists.ordered

theorem executeAll (lists : s.Lists held) (ids : (held.map (·.id)).Nodup) {store : Store}
    (perm : store.posts.Perm s.posts) {window : Window} (start : window.offset = 0)
    (covers : s.posts.length ≤ window.limit.toNat) :
    store.execute ⟨[], {}, window⟩ = ⟨s.posts, s.metadata.count⟩ := by
  rw [Store.execute, lists.matchingAll ids perm, lists.count, start, UInt64.toNat_zero, List.drop_zero,
    List.take_of_length_le covers]

end Snapshot.Lists

namespace Collector

theorem newestFirstDefault (a b : Post) : newestFirst a b = ({} : SortKey).comparePosts a b := by
  have swap : compare b.createdAt a.createdAt = (compare a.createdAt b.createdAt).swap := OrientedCmp.eq_swap
  rw [newestFirst, swap]
  rfl

variable {c : Collector} {s : Snapshot}

theorem buildErrorIff (c : Collector) (now : Instant) : c.build now = .error .empty ↔ c.posts = #[] := by
  unfold build isEmpty
  split
  · rename_i empty
    exact iff_of_true rfl (Array.isEmpty_iff.1 empty)
  · rename_i some
    exact iff_of_false (by simp) fun empty => some (Array.isEmpty_iff.2 empty)

theorem buildOk (some : c.posts ≠ #[]) (now : Instant) : ∃ s, c.build now = .ok s := by
  have present : ¬c.isEmpty := fun empty => some (Array.isEmpty_iff.1 empty)
  rw [build, if_neg present]
  exact ⟨_, rfl⟩

theorem buildLists (distinct : (ids c.posts.toList).Nodup) {now : Instant} (built : c.build now = .ok s) :
    s.Lists c.posts.toList := by
  unfold build at built
  split at built
  · contradiction
  · rename_i some
    have present : c.posts.toList ≠ [] := fun empty => some (by simpa [isEmpty] using empty)
    have perm := List.mergeSort_perm c.posts.toList fun a b => (newestFirst a b).isLE
    have sorted : (c.posts.toList.mergeSort fun a b => (newestFirst a b).isLE).Pairwise fun a b =>
        (({} : SortKey).comparePosts a b).isLE := by
      simp only [newestFirstDefault]
      exact List.pairwise_mergeSort (fun _ _ _ => TransCmp.isLE_trans) (SortKey.total {}) _
    cases built
    generalize (c.posts.toList.mergeSort fun a b => (newestFirst a b).isLE) = posts at perm sorted
    have ordered := Post.newerOfSorted ((perm.map _).nodup_iff.2 distinct) sorted
    have nonempty : posts ≠ [] := fun empty => present (List.nil_perm.1 (empty ▸ perm))
    refine ⟨perm, ordered, rfl, ?_, ?_⟩
    · have last := List.getLast?_eq_some_getLast nonempty
      exact ⟨_, List.getLast_mem nonempty, by rw [last]; rfl, Post.lastEarliest ordered last⟩
    · have head := List.head?_eq_some_head nonempty
      exact ⟨_, List.head_mem nonempty, by rw [head]; rfl, Post.headLatest ordered head⟩

theorem emptyIff (added : List Post) : (addAll {} added).posts = #[] ↔ added = [] := by
  have firstSeen := (holdsAll added).firstSeen
  constructor
  · intro empty
    rw [empty] at firstSeen
    cases added with
    | nil => rfl
    | cons p added => simp [ids, List.eraseDups_cons] at firstSeen
  · rintro rfl
    rfl

theorem memHeld {added : List Post} (single : ∀ p ∈ added, ∀ q ∈ added, p.id = q.id → p = q) (p : Post) :
    p ∈ (addAll {} added).posts.toList ↔ p ∈ added := by
  have holds := holdsAll added
  have came : ∀ q ∈ (addAll {} added).posts.toList, q ∈ added := fun q held =>
    List.mem_reverse.1 (List.mem_of_find?_eq_some (holds.last q held))
  constructor
  · exact came p
  · intro inside
    have id : p.id ∈ ids (addAll {} added).posts.toList := by
      rw [holds.firstSeen, List.mem_eraseDups]
      exact List.mem_map_of_mem inside
    obtain ⟨q, held, same⟩ := List.mem_map.1 id
    rwa [single p inside q (came q held) same.symm]

theorem heldPerm {added others : List Post} (same : ∀ p, p ∈ added ↔ p ∈ others)
    (single : ∀ p ∈ added, ∀ q ∈ added, p.id = q.id → p = q) :
    (addAll {} added).posts.toList.Perm (addAll {} others).posts.toList := by
  have other : ∀ p ∈ others, ∀ q ∈ others, p.id = q.id → p = q := fun p inP q inQ =>
    single p ((same p).2 inP) q ((same q).2 inQ)
  have once : ∀ added, (addAll {} added).posts.toList.Nodup := fun added => .of_map _ (holdsAll added).distinct
  rw [List.perm_ext_iff_of_nodup (once added) (once others)]
  intro p
  rw [memHeld single, memHeld other, same]

theorem snapshotNewestFirst (added : List Post) (now : Instant) :
    let c := addAll {} added
    (c.build now = .error .empty ↔ added = []) ∧
    (added ≠ [] → ∃ s, c.build now = .ok s ∧ s.Lists c.posts.toList ∧
      (∀ store : Store, store.posts.Perm s.posts → s.metadata.count.toNat = s.posts.length ∧
        ∀ window : Window, window.offset = 0 → s.posts.length ≤ window.limit.toNat →
          store.execute ⟨[], {}, window⟩ = ⟨s.posts, s.metadata.count⟩) ∧
      ∀ others later, (∀ p, p ∈ added ↔ p ∈ others) → (∀ p ∈ added, ∀ q ∈ added, p.id = q.id → p = q) →
        ∃ t, (addAll {} others).build later = .ok t ∧ t.posts = s.posts ∧ t.metadata.count = s.metadata.count ∧
          t.metadata.earliest = s.metadata.earliest ∧ t.metadata.latest = s.metadata.latest) := by
  intro c
  have distinct : (ids c.posts.toList).Nodup := (holdsAll added).distinct
  refine ⟨(buildErrorIff c now).trans (emptyIff added), fun some => ?_⟩
  obtain ⟨s, built⟩ := buildOk (mt (emptyIff added).1 some) now
  have lists := buildLists distinct built
  refine ⟨s, built, lists, ?_, ?_⟩
  · intro store perm
    have countable : s.posts.length < UInt64.size := perm.length_eq ▸ store.countable
    refine ⟨?_, fun window start covers => lists.executeAll distinct perm start covers⟩
    rw [lists.count, UInt64.toNat_ofNat_of_lt' countable]
  · intro others later same single
    have more : others ≠ [] := by
      rintro rfl
      exact some (List.eq_nil_iff_forall_not_mem.2 fun p inside => List.not_mem_nil ((same p).1 inside))
    obtain ⟨t, again⟩ := buildOk (mt (emptyIff others).1 more) later
    have also := buildLists (holdsAll others).distinct again
    exact ⟨t, again, lists.same also (heldPerm same single)⟩

def notice (id : String) (written : Date) : Post :=
  { id, text := "closed", username := "office", createdAt := .midnight written }

def monday : Date := ⟨739400, by decide, by decide⟩

def tuesday : Date := ⟨739401, by decide, by decide⟩

def notices : List Post := [notice "2" monday, notice "1" monday, notice "3" tuesday, notice "2" monday]

def noticesAgain : List Post := [notice "3" tuesday, notice "2" monday, notice "1" monday]

def noticeStore : Store := ⟨[notice "1" monday, notice "2" monday, notice "3" tuesday], by decide⟩

theorem noticesNewestFirst :
    (∀ p, p ∈ notices ↔ p ∈ noticesAgain) ∧ (∀ p ∈ notices, ∀ q ∈ notices, p.id = q.id → p = q) ∧
    ∃ s t, (addAll {} notices).build (.midnight monday) = .ok s ∧
      (addAll {} noticesAgain).build (.midnight tuesday) = .ok t ∧
      s.posts = [notice "3" tuesday, notice "1" monday, notice "2" monday] ∧ t.posts = s.posts ∧
      noticeStore.posts.Perm s.posts ∧ s.metadata.count.toNat = s.posts.length ∧
      noticeStore.execute ⟨[], {}, .whole⟩ = ⟨s.posts, s.metadata.count⟩ := by
  have held : (addAll {} notices).posts.toList = [notice "2" monday, notice "1" monday, notice "3" tuesday] := by
    simp [addAll, notices, add, notice, Std.HashMap.getElem_insert]
  have same : ∀ p, p ∈ notices ↔ p ∈ noticesAgain := by
    intro p
    simp only [notices, noticesAgain, List.mem_cons, List.not_mem_nil, or_false]
    tauto
  have single : ∀ p ∈ notices, ∀ q ∈ notices, p.id = q.id → p = q := by decide
  obtain ⟨s, built, lists, stored, reordered⟩ := (snapshotNewestFirst notices (.midnight monday)).2 (by decide)
  obtain ⟨t, again, posts, -⟩ := reordered noticesAgain (.midnight tuesday) same single
  have newest : s.posts = [notice "3" tuesday, notice "1" monday, notice "2" monday] := by
    apply Post.newestUnique (lists.perm.trans ?_) lists.ordered (by decide)
    rw [held]
    decide
  have perm : noticeStore.posts.Perm s.posts := by
    rw [newest]
    decide
  obtain ⟨count, execute⟩ := stored noticeStore perm
  exact ⟨same, single, s, t, built, again, newest, posts, perm, count, execute .whole rfl (by rw [newest]; decide)⟩

end Collector
end Postboard
