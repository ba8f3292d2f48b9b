import Postboard.Proofs.Json.Members
import Postboard.Proofs.Json.RoundTrip

/-! Pages as they are received from a remote table. A total under any of its three names is the total, and two of them
are as little read as one name that comes twice; whatever is left out is empty or zero by itself. -/
namespace Postboard.Page
open Json

inductive Listed : List (String × Value) → List Post → Prop where
  | missing : Listed [] []
  | given {items : List Value} {posts : List Post}
      (each : List.Forall₂ (fun v p => Post.ofJson? v = some p) items posts) : Listed [("records", .array items)] posts

inductive Counted : List (String × Value) → UInt64 → Prop where
  | missing : Counted [] 0
  | given {name : String} (known : name ∈ ["total_count", "totalCount", "count"]) (total : UInt64) :
      Counted [(name, .ofNat total.toNat)] total

def parse? (text : String) : Option Page := (Value.parse? text).bind ofJson?

structure Told (members : List (String × Value)) (p : Page) : Prop where
  posts : Tells (Value.list? Post.ofJson?) (some []) (valuesOf ["records"] members) p.posts
  total : Tells Value.natural? (some 0) (valuesOf ["total_count", "totalCount", "count"] members) p.total

variable {members known listed counted : List (String × Value)} {p : Page} {text : String}

theorem readIff : ofJson? (.record members) = some p ↔ p.Told members := by
  obtain ⟨posts, total⟩ := p
  simp only [ofJson?, slotsRecord, fieldNames, List.mapM_cons, List.mapM_nil, bind, pure, Option.bind_eq_some_iff,
    orElseRead, Option.some.injEq, existsAndEq, true_and, and_true, exists_exists_and_eq_and, mk.injEq]
  constructor
  · rintro ⟨a, b, ⟨inA, inB⟩, readA, readB⟩
    exact ⟨readTells.1 ⟨a, inA, readA⟩, readTells.1 ⟨b, inB, readB⟩⟩
  · intro told
    obtain ⟨a, inA, readA⟩ := readTells.2 told.posts
    obtain ⟨b, inB, readB⟩ := readTells.2 told.total
    exact ⟨a, b, ⟨inA, inB⟩, readA, readB⟩

theorem parseTold (presents : Presents fieldNames text known) (told : p.Told known) : parse? text = some p := by
  obtain ⟨members, unknown, read, perm, apart⟩ := presents
  have same : ∀ names ∈ fieldNames, (valuesOf names known).Perm (valuesOf names members) := fun names field =>
    (valuesPresented perm apart field).symm
  rw [parse?, read, Option.bind_some, readIff]
  exact ⟨told.posts.same (same _ (by decide)), told.total.same (same _ (by decide))⟩

theorem listRead {items : List Value} {posts : List Post}
    (each : List.Forall₂ (fun v p => Post.ofJson? v = some p) items posts) :
    Value.list? Post.ofJson? (.array items) = some posts := by
  rw [Value.list?]
  induction each with
  | nil => rfl
  | cons first _ ih =>
    rw [List.mapM_cons, first, ih]
    rfl

theorem Listed.apart {posts : List Post} (lists : Listed listed posts) :
    valuesOf ["total_count", "totalCount", "count"] listed = [] := by
  cases lists with
  | missing => rfl
  | given => exact valuesElsewhere (by decide)

theorem Counted.apart {total : UInt64} (counts : Counted counted total) : valuesOf ["records"] counted = [] := by
  cases counts with
  | missing => rfl
  | given known =>
    refine valuesElsewhere fun same => ?_
    rw [List.mem_singleton.1 same] at known
    exact absurd known (by decide)

theorem toldListed (lists : Listed listed p.posts) (counts : Counted counted p.total) : p.Told (listed ++ counted) := by
  constructor
  · rw [valuesAppend, counts.apart, List.append_nil]
    generalize p.posts = posts at lists
    cases lists with
    | missing => exact .missing rfl
    | given each => exact .given (listRead each)
  · rw [valuesAppend, lists.apart, List.nil_append]
    generalize p.total = total at counts
    cases counts with
    | missing => exact .missing rfl
    | given known =>
      rw [valuesHere known]
      exact .given (Undoes.count.decoded total)

theorem pageReceived :
    (∀ p text listed counted, Listed listed p.posts → Counted counted p.total →
      Presents fieldNames text (listed ++ counted) → parse? text = some p) ∧
    (∀ text members rest names a b v w, Value.parse? text = some (.object members) →
      names ∈ fieldNames → a ∈ names → b ∈ names → members.Perm ((some a, v) :: (some b, w) :: rest) →
        parse? text = none) := by
  constructor
  · intro p text listed counted lists counts presents
    exact parseTold presents (toldListed lists counts)
  · intro text members rest names a b v w read field first second perm
    rw [parse?, read, Option.bind_some, ofJson?, slotsRepeated field first second perm]
    rfl

def storm : Post where
  id := "8"
  text := "storm"
  username := "u"
  createdAt := .midnight ⟨739405, by decide, by decide⟩

def stormPosts : String × Value := ("records", .array [storm.toJson])

def stormText : String := (Value.record [("count", .ofNat 45), ("next", .null), stormPosts]).text

def totalText : String := (Value.record [("totalCount", .ofNat 45)]).text

def totalsText : String := (Value.record [("totalCount", .ofNat 45), stormPosts, ("count", .ofNat 45)]).text

theorem stormFormed : stormPosts.2.Formed := .array (List.forall_mem_singleton.2 (postUndone.formed storm))

theorem totalFormed (total : Nat) : (Value.ofNat total).Formed := .number (ofNatFormed total)

/- One total is taken under any name and alone, two are not even where they agree. -/
theorem stormReceived :
    parse? stormText = some ⟨[storm], 45⟩ ∧ parse? totalText = some ⟨[], 45⟩ ∧ parse? totalsText = none := by
  obtain ⟨received, repeated⟩ := pageReceived
  have posts : Listed [stormPosts] [storm] := .given (.cons (postUndone.decoded storm) .nil)
  have text : Presents fieldNames stormText ([stormPosts] ++ [("count", .ofNat 45)]) := by
    have perm : [("count", Value.ofNat 45), ("next", .null), stormPosts].Perm
        ([stormPosts] ++ [("count", .ofNat 45)] ++ [("next", .null)]) :=
      (List.reverse_perm _).symm.trans (.cons _ (.swap _ _ _))
    exact presentsWritten perm (by decide) (by simp [totalFormed, stormFormed, Value.Formed.null])
  have alone : Presents fieldNames totalText ([] ++ [("totalCount", .ofNat 45)]) :=
    presentsWritten (.refl _) (by simp) (by simp [totalFormed])
  have read : Value.parse? totalsText = some (.record [("totalCount", .ofNat 45), stormPosts, ("count", .ofNat 45)]) :=
    Value.parseText (recordFormed (by simp [totalFormed, stormFormed]))
  refine ⟨received _ _ _ _ posts (.given (by decide) 45) text,
    received ⟨[], 45⟩ _ _ _ .missing (.given (by decide) 45) alone, ?_⟩
  exact repeated _ _ _ ["total_count", "totalCount", "count"] "totalCount" "count" _ _ read
    (by decide) (by decide) (by decide) (.cons _ (.swap _ _ _))

end Postboard.Page
