import Mathlib.Data.Finset.Card
import Mathlib.Data.List.Induction
import Postboard.Collector

/-! What a collector holds after any posts were added. Each id that came is held once, in the order in which the
ids first came, with the post that came last under it; the places name exactly these posts, so that a
replacement always finds its place. -/
namespace Postboard.Collector

def lastUnder (id : String) (added : List Post) : Option Post := added.reverse.find? (·.id = id)

def ids (posts : List Post) : List String := posts.map (·.id)

theorem lastUnderSnoc (id : String) (added : List Post) (p : Post) :
    lastUnder id (added ++ [p]) = if p.id = id then some p else lastUnder id added := by
  unfold lastUnder
  rw [List.reverse_append, List.reverse_singleton, List.singleton_append, List.find?_cons]
  by_cases same : p.id = id <;> simp [same]

theorem memLast {posts added : List Post} {p : Post} (every : ∀ id ∈ ids added, id ∈ ids posts)
    (last : ∀ q ∈ posts, lastUnder q.id added = some q) : p ∈ posts ↔ lastUnder p.id added = some p := by
  refine ⟨last p, fun found => ?_⟩
  have came : p.id ∈ ids added := List.mem_map_of_mem (List.mem_reverse.1 (List.mem_of_find?_eq_some found))
  obtain ⟨q, held, id⟩ := List.mem_map.1 (every p.id came)
  have again := last q held
  rw [id, found] at again
  exact Option.some.inj again ▸ held

theorem firstIdsSnoc (added : List Post) (p : Post) :
    (ids (added ++ [p])).eraseDups =
      if p.id ∈ (ids added).eraseDups then (ids added).eraseDups else (ids added).eraseDups ++ [p.id] := by
  unfold ids
  rw [List.map_append, List.eraseDups_append, List.map_singleton]
  by_cases known : p.id ∈ added.map (·.id)
  · rw [if_pos (List.mem_eraseDups.2 known), List.removeAll, List.filter_cons_of_neg (by simpa using known)]
    exact List.append_nil _
  · rw [if_neg (mt List.mem_eraseDups.1 known), List.removeAll, List.filter_cons_of_pos (by simpa using known)]
    rfl

structure Holds (c : Collector) (added : List Post) : Prop where
  firstSeen : ids c.posts.toList = (ids added).eraseDups
  distinct : (ids c.posts.toList).Nodup
  last : ∀ p ∈ c.posts.toList, lastUnder p.id added = some p
  places : ∀ (id : String) (i : Nat), c.places[id]? = some i ↔ (ids c.posts.toList)[i]? = some id

theorem placeSnoc {names : List String} {last id : String} {i : Nat} :
    (names ++ [last])[i]? = some id ↔ names[i]? = some id ∨ i = names.length ∧ last = id := by
  rcases Nat.lt_trichotomy i names.length with before | rfl | after
  · simp [List.getElem?_append_left before, Nat.ne_of_lt before]
  · simp
  · have past : (names ++ [last])[i]? = none := by
      rw [List.getElem?_eq_none_iff, List.length_append]
      exact after
    simp [past, List.getElem?_eq_none (Nat.le_of_lt after), Nat.ne_of_gt after]

theorem holdsNew : Holds {} [] := by
  refine ⟨rfl, List.nodup_nil, fun p held => absurd held List.not_mem_nil, ?_⟩
  intro id i
  simp [ids]

theorem addFresh {c : Collector} {p : Post} (fresh : c.places[p.id]? = none) :
    c.add p = { posts := c.posts.push p, places := c.places.insert p.id c.posts.size } := by
  rw [add, fresh]

theorem addKnown {c : Collector} {p : Post} {place : Nat} (known : c.places[p.id]? = some place) :
    c.add p = { c with posts := c.posts.setIfInBounds place p } := by
  rw [add, known]

variable {c : Collector} {added : List Post} {p : Post}

theorem holdsFresh (holds : c.Holds added) (fresh : c.places[p.id]? = none) : (c.add p).Holds (added ++ [p]) := by
  have new : p.id ∉ ids c.posts.toList := by
    intro known
    obtain ⟨i, place⟩ := List.mem_iff_getElem?.1 known
    rw [(holds.places p.id i).2 place] at fresh
    contradiction
  have pushed : ids (c.add p).posts.toList = ids c.posts.toList ++ [p.id] := by
    rw [addFresh fresh, Array.toList_push, ids, ids, List.map_append, List.map_singleton]
  constructor
  · rw [pushed, firstIdsSnoc, ← holds.firstSeen, if_neg new]
  · rw [pushed, List.nodup_append]
    exact ⟨holds.distinct, List.nodup_singleton _, fun a inside b last same =>
      new (List.mem_singleton.1 last ▸ same ▸ inside)⟩
  · intro q held
    rw [addFresh fresh, Array.toList_push, List.mem_append, List.mem_singleton] at held
    rw [lastUnderSnoc]
    rcases held with before | rfl
    · have other : p.id ≠ q.id := fun same => new (same ▸ List.mem_map_of_mem before)
      rw [if_neg other, holds.last q before]
    · rw [if_pos rfl]
  · intro id i
    have size : (ids c.posts.toList).length = c.posts.size := List.length_map _
    rw [pushed, placeSnoc, size, ← holds.places, addFresh fresh, Std.HashMap.getElem?_insert]
    by_cases same : p.id = id
    · subst same
      simp [fresh, eq_comm]
    · simp [same]

theorem holdsKnown {place : Nat} (holds : c.Holds added) (known : c.places[p.id]? = some place) :
    (c.add p).Holds (added ++ [p]) := by
  have here := (holds.places p.id place).1 known
  obtain ⟨within, same⟩ := List.getElem?_eq_some_iff.1 here
  have kept : ids (c.add p).posts.toList = ids c.posts.toList := by
    rw [addKnown known, Array.toList_setIfInBounds, ids, List.map_set, ← same]
    exact List.set_getElem_self within
  constructor
  · rw [kept, firstIdsSnoc, ← holds.firstSeen, if_pos (List.mem_of_getElem? here)]
  · rw [kept]
    exact holds.distinct
  · intro q held
    rw [addKnown known, Array.toList_setIfInBounds] at held
    obtain ⟨i, found⟩ := List.mem_iff_getElem?.1 held
    rw [lastUnderSnoc]
    by_cases replaced : place = i
    · subst replaced
      obtain rfl := Option.some.inj ((List.getElem?_set_self (List.length_map _ ▸ within)).symm.trans found)
      rw [if_pos rfl]
    · rw [List.getElem?_set_ne replaced] at found
      have other : p.id ≠ q.id := by
        intro same
        have there : (ids c.posts.toList)[i]? = some p.id := by
          rw [ids, List.getElem?_map, found, same, Option.map_some]
        exact replaced ((List.getElem?_inj within holds.distinct).1 (here.trans there.symm))
      rw [if_neg other, holds.last q (List.mem_of_getElem? found)]
  · intro id i
    rw [kept, addKnown known]
    exact holds.places id i

theorem holdsAdd (holds : c.Holds added) (p : Post) : (c.add p).Holds (added ++ [p]) := by
  cases place : c.places[p.id]? with
  | none => exact holdsFresh holds place
  | some i => exact holdsKnown holds place

theorem holdsAll (added : List Post) : (addAll {} added).Holds added := by
  induction added using List.reverseRecOn with
  | nil => exact holdsNew
  | append_singleton added p ih =>
    rw [addAll, List.foldl_append]
    exact holdsAdd ih p

theorem memHolds (holds : c.Holds added) : p ∈ c.posts.toList ↔ lastUnder p.id added = some p := by
  refine memLast (fun id came => ?_) holds.last
  rw [holds.firstSeen, List.mem_eraseDups]
  exact came

theorem heldAlone (holds : c.Holds added) {id : String} (last : lastUnder id added = some p) :
    c.posts.toList.filter (·.id = id) = [p] := by
  obtain rfl : p.id = id := by simpa using List.find?_some last
  have once : (c.posts.toList.filter (·.id = p.id)).Nodup := (List.Nodup.of_map _ holds.distinct).filter _
  apply List.perm_singleton.1
  rw [List.perm_ext_iff_of_nodup once (List.nodup_singleton p)]
  intro q
  rw [List.mem_filter, memHolds holds, decide_eq_true_iff, List.mem_singleton]
  constructor
  · rintro ⟨also, same⟩
    rw [same, last] at also
    exact (Option.some.inj also).symm
  · rintro rfl
    exact ⟨last, rfl⟩

theorem heldOnce (added : List Post) :
    let c := addAll {} added
    (ids c.posts.toList).Nodup ∧ ids c.posts.toList = (ids added).eraseDups ∧
    (∀ p, p ∈ c.posts.toList ↔ lastUnder p.id added = some p) ∧
    (∀ (id : String) (i : Nat), c.places[id]? = some i ↔ ∃ inside : i < c.posts.size, c.posts[i].id = id) ∧
    c.size = (ids added).toFinset.card := by
  intro c
  have holds : c.Holds added := holdsAll added
  have same : (ids added).toFinset = (ids c.posts.toList).toFinset := by
    ext id
    rw [List.mem_toFinset, List.mem_toFinset, holds.firstSeen, List.mem_eraseDups]
  refine ⟨holds.distinct, holds.firstSeen, fun p => memHolds holds, ?_, ?_⟩
  · intro id i
    rw [holds.places, ids, List.getElem?_map, Array.getElem?_toList, Option.map_eq_some_iff]
    constructor
    · rintro ⟨p, found, same⟩
      obtain ⟨inside, rfl⟩ := Array.getElem?_eq_some_iff.1 found
      exact ⟨inside, same⟩
    · rintro ⟨inside, same⟩
      exact ⟨_, Array.getElem?_eq_getElem inside, same⟩
  · rw [same, List.toFinset_card_of_nodup holds.distinct]
    exact (List.length_map _).symm

end Postboard.Collector
