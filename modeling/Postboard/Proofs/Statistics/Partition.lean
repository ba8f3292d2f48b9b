import Postboard.Proofs.Collector.Built
import Postboard.Proofs.Snapshot.RoundTrip

/-! The figures of a board as counts. Each post is in one part of the distribution, and a part is as large as what a
store finds for its sentiment; users and districts are counted once each. No figure tells in which order the posts
came, so a collector has those of the store that its snapshot is loaded into. How an average is rounded does not
matter here. -/
namespace Postboard
open Std

def Distribution.of (d : Distribution) : Sentiment → Nat
  | .positive => d.positive
  | .neutral => d.neutral
  | .negative => d.negative

def Distribution.total (d : Distribution) : Nat := d.positive + d.neutral + d.negative + d.unlabeled

namespace Statistics

def districtNames (posts : List Post) : Finset String :=
  ((posts.filterMap (·.district)).map fun name => String.ofList (Text.trim name.toList)).toFinset.erase ""

structure Counts (s : Statistics) (posts : List Post) : Prop where
  all : s.posts = posts.length
  parts : s.distribution.total = posts.length
  labelled : ∀ t, s.distribution.of t = posts.countP (·.sentiment = some t)
  users : s.users = (posts.map (·.username)).toFinset.card
  districts : s.districts = (districtNames posts).card
  average : s.average = .ofSum (s.distribution.positive - s.distribution.negative)
    (s.distribution.positive + s.distribution.neutral + s.distribution.negative)

end Statistics

namespace Distribution

theorem countTotal (d : Distribution) (s : Option Sentiment) : (d.count s).total = d.total + 1 := by
  cases s with
  | none => rfl
  | some s => cases s <;> simp only [count, total] <;> omega

theorem countOf (d : Distribution) (s : Option Sentiment) (t : Sentiment) :
    (d.count s).of t = d.of t + if s = some t then 1 else 0 := by
  cases s with
  | none => rfl
  | some s => cases s <;> cases t <;> rfl

theorem ext {d e : Distribution} (total : d.total = e.total) (parts : ∀ s, d.of s = e.of s) : d = e := by
  have positive : d.positive = e.positive := parts .positive
  have neutral : d.neutral = e.neutral := parts .neutral
  have negative : d.negative = e.negative := parts .negative
  have unlabeled : d.unlabeled = e.unlabeled := by
    unfold Distribution.total at total
    omega
  cases d
  cases e
  simp_all

theorem foldTotal (posts : List Post) (d : Distribution) :
    (posts.foldl (fun d p => d.count p.sentiment) d).total = d.total + posts.length := by
  induction posts generalizing d with
  | nil => rfl
  | cons p posts ih =>
    rw [List.foldl_cons, ih, countTotal, List.length_cons]
    omega

theorem foldOf (posts : List Post) (d : Distribution) (s : Sentiment) :
    (posts.foldl (fun d p => d.count p.sentiment) d).of s = d.of s + posts.countP (·.sentiment = some s) := by
  induction posts generalizing d with
  | nil => rfl
  | cons p posts ih =>
    rw [List.foldl_cons, ih, countOf, List.countP_cons, Nat.add_assoc, Nat.add_comm (ite _ _ _)]
    simp only [decide_eq_true_eq]

theorem ofPostsTotal (posts : List Post) : (ofPosts posts).total = posts.length :=
  (foldTotal posts {}).trans (Nat.zero_add _)

theorem ofPostsOf (posts : List Post) (s : Sentiment) : (ofPosts posts).of s = posts.countP (·.sentiment = some s) := by
  rw [ofPosts, foldOf]
  cases s <;> exact Nat.zero_add _

theorem ofPostsPerm {posts others : List Post} (perm : posts.Perm others) : ofPosts others = ofPosts posts := by
  apply ext
  · rw [ofPostsTotal, ofPostsTotal, perm.length_eq]
  · intro s
    rw [ofPostsOf, ofPostsOf, perm.countP_eq]

end Distribution

namespace Statistics

theorem distinctSeen (values : List String) :
    let seen := values.foldl (fun (seen : HashSet String) v => seen.insert v) ∅
    (∀ v, v ∈ seen ↔ v ∈ values) ∧ seen.size = values.toFinset.card := by
  induction values using List.reverseRecOn with
  | nil => simp
  | append_singleton values v ih =>
    obtain ⟨members, size⟩ := ih
    simp only [List.foldl_append, List.foldl_cons, List.foldl_nil]
    constructor
    · intro u
      rw [HashSet.mem_insert, members, List.mem_append, List.mem_singleton, beq_iff_eq, or_comm, eq_comm]
    · have names : (values ++ [v]).toFinset = insert v values.toFinset := by
        ext u
        simp
      rw [HashSet.size_insert, size, names, Finset.card_insert_eq_ite]
      simp only [members, List.mem_toFinset]

theorem distinctCard (values : List String) : distinct values = values.toFinset.card := (distinctSeen values).2

theorem scoreSumFrom (posts : List Post) (sum : Int) :
    (posts.filterMap (·.sentiment)).foldl (fun sum s => sum + s.score) sum =
      sum + posts.countP (·.sentiment = some .positive) - posts.countP (·.sentiment = some .negative) := by
  induction posts generalizing sum with
  | nil => simp
  | cons p posts ih =>
    rw [List.filterMap_cons, List.countP_cons, List.countP_cons]
    cases p.sentiment with
    | none => simp [ih]
    | some s =>
      rw [List.foldl_cons, ih]
      cases s <;> simp [Sentiment.score] <;> omega

theorem scoreSumParts (posts : List Post) :
    scoreSum posts = (Distribution.ofPosts posts).positive - (Distribution.ofPosts posts).negative := by
  have positive : (Distribution.ofPosts posts).positive = _ := Distribution.ofPostsOf posts .positive
  have negative : (Distribution.ofPosts posts).negative = _ := Distribution.ofPostsOf posts .negative
  rw [scoreSum, scoreSumFrom, positive, negative, Int.zero_add]

theorem districtIff (p : Post) (name : String) :
    district? p = some name ↔
      name ≠ "" ∧ ∃ given, p.district = some given ∧ String.ofList (Text.trim given.toList) = name := by
  unfold district?
  cases p.district with
  | none => simp [Text.trim, Text.trimStart, Text.trimEnd]
  | some given =>
    have blank : (Text.trim given.toList).isEmpty = (String.ofList (Text.trim given.toList) == "") := by
      rw [Bool.eq_iff_iff, List.isEmpty_iff, beq_iff_eq, String.ofList_eq_empty_iff]
    simp only [Option.getD_some, blank]
    grind

theorem districtsCard (posts : List Post) : distinct (posts.filterMap district?) = (districtNames posts).card := by
  rw [distinctCard, districtNames]
  congr 1
  ext name
  simp only [List.mem_toFinset, List.mem_filterMap, Finset.mem_erase, List.mem_map, districtIff]
  grind

theorem labeledParts (posts : List Post) :
    let d := Distribution.ofPosts posts
    posts.length - d.unlabeled = d.positive + d.neutral + d.negative := by
  intro d
  have total : d.total = posts.length := Distribution.ofPostsTotal posts
  unfold Distribution.total at total
  omega

theorem countsPosts (posts : List Post) : (ofPosts posts).Counts posts where
  all := rfl
  parts := Distribution.ofPostsTotal posts
  labelled := Distribution.ofPostsOf posts
  users := distinctCard _
  districts := districtsCard posts
  average := by rw [ofPosts, scoreSumParts, labeledParts]

theorem ofPostsPerm {posts others : List Post} (perm : posts.Perm others) : ofPosts others = ofPosts posts := by
  have distribution := Distribution.ofPostsPerm perm
  have users : (others.map (·.username)).toFinset = (posts.map (·.username)).toFinset :=
    List.toFinset_eq_of_perm _ _ (perm.symm.map _)
  have districts : (others.filterMap district?).toFinset = (posts.filterMap district?).toFinset :=
    List.toFinset_eq_of_perm _ _ (perm.symm.filterMap _)
  simp only [ofPosts, distinctCard, scoreSumParts, distribution, perm.length_eq, users, districts]

end Statistics

namespace Store

theorem selectsSentiment (s : Sentiment) (p : Post) :
    Plan.selects ({ sentiment := some s } : Filters).clauses p = decide (p.sentiment = some s) := by
  have asked : ({ sentiment := some s } : Filters).clauses = [.only ⟨.sentiment, .eq, .text s.name⟩] := by
    rw [Filters.clauses, DateRange.clausesNone]
    rfl
  have selected : Plan.selects [.only ⟨.sentiment, .eq, .text s.name⟩] p =
      p.sentiment.any fun t => compare t.name s.name == .eq := by
    rw [Plan.selects, List.all_cons, List.all_nil, Bool.and_true]
    exact Bool.or_false _
  rw [asked, selected]
  cases p.sentiment with
  | none => rfl
  | some t =>
    rw [Bool.eq_iff_iff, Option.any_some, beq_iff_eq, Std.compare_eq_iff_eq, decide_eq_true_eq, Option.some_inj]
    constructor
    · intro same
      exact Option.some_inj.1 ((Sentiment.ofNameName t).symm.trans (same ▸ Sentiment.ofNameName s))
    · intro same
      rw [same]

theorem executeSentiment (store : Store) (s : Sentiment) (window : Window) :
    (store.execute (({ sentiment := some s } : Filters).plan window)).total.toNat =
      (Distribution.ofPosts store.posts).of s := by
  rw [executeTotal, Distribution.ofPostsOf]
  exact List.countP_congr fun p _ => by rw [Filters.plan, selectsSentiment]

end Store

namespace Statistics

theorem figuresCounted (posts : List Post) :
    let s := ofPosts posts
    s.Counts posts ∧ scoreSum posts = s.distribution.positive - s.distribution.negative ∧
    (∀ store : Store, store.posts = posts → ∀ sentiment window,
      (store.execute (({ sentiment := some sentiment } : Filters).plan window)).total.toNat =
        s.distribution.of sentiment) ∧
    (∀ others, posts.Perm others → ofPosts others = s) ∧
    ∀ now snapshot compress data, (∀ bytes, Gzip.decode (compress bytes) = some bytes) →
      (Collector.addAll {} posts).build now = .ok snapshot →
      Container.packWith compress (Binary.writeSnapshot snapshot) Container.current = .ok data →
      ∃ store, Store.ofSnapshot data = .ok store ∧ ofPosts store.posts = (Collector.addAll {} posts).statistics := by
  refine ⟨countsPosts posts, scoreSumParts posts, ?_, fun _ => ofPostsPerm, ?_⟩
  · rintro store rfl sentiment window
    exact store.executeSentiment sentiment window
  · intro now snapshot compress data lossless built packed
    obtain ⟨store, loaded, posts⟩ := Container.loadPacked lossless packed
    have perm := (Collector.buildLists (Collector.holdsAll _).distinct built).perm
    exact ⟨store, loaded, posts ▸ ofPostsPerm perm.symm⟩

def pollDay : Instant := .midnight ⟨739402, by decide, by decide⟩

def poll (id : String) (sentiment : Option Sentiment) (district : Option String) : Post where
  id
  text := "poll"
  username := "office"
  district
  sentiment
  createdAt := pollDay

def polls : List Post :=
  [poll "3" (some .negative) (some " North "), poll "1" none (some " "), poll "2" (some .negative) (some "North")]

def pollStore : Store := ⟨polls, by decide⟩

def pollSnapshot : Snapshot where
  metadata := {
    count := 3
    createdAt := pollDay
    earliest := some pollDay
    latest := some pollDay
    version := "1.0" }
  posts :=
    [poll "1" none (some " "), poll "2" (some .negative) (some "North"), poll "3" (some .negative) (some " North ")]

theorem pollsCounted :
    pollStore.posts = polls ∧ polls.Perm polls.reverse ∧ (ofPosts polls).districts = 1 ∧ scoreSum polls = -2 ∧
    (∀ window, (pollStore.execute (({ sentiment := some .negative } : Filters).plan window)).total.toNat = 2) ∧
    ofPosts polls.reverse = ofPosts polls ∧ (Collector.addAll {} polls).build pollDay = .ok pollSnapshot ∧
    ∃ data store, Container.writeSnapshot pollSnapshot = .ok data ∧ Store.ofSnapshot data = .ok store ∧
      ofPosts store.posts = (Collector.addAll {} polls).statistics := by
  obtain ⟨counts, scores, found, reordered, loaded⟩ := figuresCounted polls
  have negative : (ofPosts polls).distribution.of .negative = 2 := counts.labelled .negative
  have perm : polls.Perm polls.reverse := (List.reverse_perm polls).symm
  have built : (Collector.addAll {} polls).build pollDay = .ok pollSnapshot := by cbv
  have short : (Binary.writeSnapshot pollSnapshot).length < UInt32.size := by decide +kernel
  have packed := @Container.packFits Gzip.encode _ short Container.current
  obtain ⟨store, read, figures⟩ := loaded pollDay pollSnapshot Gzip.encode _ Gzip.decodeEncode built packed
  have districts : (districtNames polls).card = 1 := by cbv
  refine ⟨rfl, perm, counts.districts.trans districts, scores, ?_, reordered _ perm, built, _, store, packed, read, figures⟩
  exact fun window => (found pollStore rfl .negative window).trans negative

end Statistics
end Postboard
