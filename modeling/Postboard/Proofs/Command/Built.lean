import Postboard.Command.Build
import Postboard.Proofs.Collector.Built
import Postboard.Proofs.Command.Shuffled
import Postboard.Proofs.Gzip.Stored
import Postboard.Proofs.Json.RoundTrip
import Postboard.Proofs.Snapshot.RoundTrip
import Postboard.Proofs.Text.ByteOrder

/-! Builds from a directory. The files are sorted before one of them is read, and all of them are read before anything
is written, so the order of a walk decides nothing, and one bad file leaves the place as it was. A build from a single
file and a place that refuses the snapshot are not covered. -/
namespace Postboard.Command.Build
open Gzip (Bytes)
open Text (bytesOf bytesLt)
open Collector (ids lastUnder)
open Std

inductive Exports : Except DiskError Bytes → List Post → Prop where
  | array {bytes : Bytes} {text : String} {posts : List Post} (decoded : String.fromUTF8? bytes.toByteArray = some text)
      (read : (Json.Value.parse? text).bind (Json.Value.list? Post.ofJson?) = some posts) : Exports (.ok bytes) posts

/-- The disk has a directory under this path. A walk meets these files, in this order, and reading one of them gives
its content; neither changes anything. -/
structure Directory {σ : Type} (disk : Disk (StateM σ)) (s : σ) (path : String) (met : List String)
    (contents : String → Except DiskError Bytes) : Prop where
  kind : (disk.kind path).run s = (.directory, s)
  walk : (disk.walk path).run s = (met, s)
  read : ∀ file ∈ met, isJsonPath file → (disk.read file).run s = (contents file, s)

theorem readPostsIff {path : String} {content : Except DiskError Bytes} {posts : List Post} :
    readPosts path content = .ok posts ↔ Exports content posts := by
  constructor
  · intro read
    unfold readPosts at read
    split at read
    · contradiction
    · split at read
      · contradiction
      · rename_i decoded
        split at read
        · rename_i found
          cases read
          exact .array decoded found
        · contradiction
  · rintro ⟨decoded, read⟩
    simp only [readPosts, decoded, read]

section Order
variable {paths others : List String}

theorem pathsTotal (a b : String) : (compare a b).isLE || (compare b a).isLE := by
  have swap : compare b a = (compare a b).swap := OrientedCmp.eq_swap
  rw [swap]
  cases compare a b <;> rfl

theorem sortPathsPerm (paths : List String) : (sortPaths paths).Perm paths := List.mergeSort_perm _ _

theorem sortPathsSorted (paths : List String) : (sortPaths paths).Pairwise fun a b => (compare a b).isLE :=
  List.pairwise_mergeSort (fun _ _ _ => TransCmp.isLE_trans) pathsTotal _

theorem sortPathsUnique (perm : paths.Perm others) : sortPaths paths = sortPaths others := by
  have both := (sortPathsPerm paths).trans (perm.trans (sortPathsPerm others).symm)
  refine both.eq_of_pairwise ?_ (sortPathsSorted paths) (sortPathsSorted others)
  intro a b _ _ first second
  exact LawfulEqCmp.eq_of_compare (OrientedCmp.isLE_antisymm first second)

theorem sortPathsAscending (distinct : paths.Nodup) : (sortPaths paths).Pairwise fun a b => bytesOf a < bytesOf b := by
  have apart : (sortPaths paths).Nodup := (sortPathsPerm paths).nodup_iff.2 distinct
  apply ((sortPathsSorted paths).and apart).imp
  rintro a b ⟨le, other⟩
  apply bytesLt
  rw [← compare_lt_iff_lt]
  cases order : compare a b with
  | lt => rfl
  | eq => exact absurd (LawfulEqCmp.eq_of_compare order) other
  | gt => rw [order] at le; contradiction

end Order

theorem treeDirectory {t u : FileTree} (shuffled : t.Shuffled u) {path : String}
    (found : t.kind path = .directory) : Directory FileTree.disk u path (u.walk path) t.read where
  kind := Prod.ext ((shuffled.kind path).trans found) rfl
  walk := rfl
  read file _ _ := Prod.ext (shuffled.read file) rfl

section Run
variable {σ : Type} {disk : Disk (StateM σ)} {s t : σ}

theorem runBind {α β : Type} {x : StateM σ α} {f : α → StateM σ β} {a : α} (first : x.run s = (a, t)) :
    (x >>= f).run s = (f a).run t := by
  rw [StateT.run_bind, first]
  rfl

variable {path : String} {met paths : List String} {contents : String → Except DiskError Bytes}

theorem inputsMet (directory : Directory disk s path met contents) :
    (inputs disk path).run s = (some (sortPaths (met.filter isJsonPath)), s) := by
  rw [inputs, runBind directory.kind]
  dsimp only
  rw [runBind directory.walk]
  rfl

theorem readAll (each : ∀ file ∈ paths, (disk.read file).run s = (contents file, s)) :
    (paths.mapM fun file => do return (file, ← disk.read file)).run s =
      (paths.map fun file => (file, contents file), s) := by
  induction paths with
  | nil => rfl
  | cons file paths ih =>
    obtain ⟨first, rest⟩ := List.forall_mem_cons.1 each
    have pair : (do return (file, ← disk.read file) : StateM σ _).run s = ((file, contents file), s) := by
      rw [runBind first]
      rfl
    rw [List.mapM_cons, runBind pair, runBind (ih rest)]
    rfl

end Run

/-- What a build of these files comes to once they are read: its report, and what it writes before it gives it. -/
def made (now : Instant) (o : Options) (files : List (String × Except DiskError Bytes)) : Report × Option Bytes :=
  match collect o.verbose {} files with
  | (lines, .error e) => (.failed (started o :: lines) e.message, none)
  | (lines, .ok c) =>
    let lines := started o :: lines ++ [finished files.length c]
    if c.isEmpty then (.failed lines Failure.noPosts.message, none)
    else
      match c.toBytes now with
      | .error e => (.failed lines (Failure.snapshot e).message, none)
      | .ok bytes => ({ out := lines ++ summary o bytes.length c.statistics }, some bytes)

def written {σ : Type} (disk : Disk (StateM σ)) (path : String) (s : σ) : Option Bytes → σ
  | none => s
  | some bytes => ((disk.write path bytes).run s).2

section Outcome
variable {σ : Type} {disk : Disk (StateM σ)} {s : σ} {o : Options} {now : Instant} {met : List String}
  {contents : String → Except DiskError Bytes}

theorem runMade (directory : Directory disk s o.input met contents)
    (writable : ∀ bytes, ((disk.write o.output bytes).run s).1 = .ok ()) :
    let outcome := made now o ((sortPaths (met.filter isJsonPath)).map fun file => (file, contents file))
    (run disk now o).run s = (outcome.1, written disk o.output s outcome.2) := by
  have each : ∀ file ∈ sortPaths (met.filter isJsonPath), (disk.read file).run s = (contents file, s) := by
    intro file inside
    obtain ⟨here, json⟩ := List.mem_filter.1 ((sortPathsPerm _).mem_iff.1 inside)
    exact directory.read file here json
  rw [run, runBind (inputsMet directory)]
  dsimp only
  rw [runBind (readAll each), made, List.length_map]
  rcases collect o.verbose {} _ with ⟨lines, e | c⟩
  · rfl
  · dsimp only
    split
    · rfl
    · cases c.toBytes now with
      | error e => rfl
      | ok bytes =>
        have done : (disk.write o.output bytes).run s = (.ok (), written disk o.output s (some bytes)) :=
          Prod.ext (writable bytes) rfl
        dsimp only
        rw [runBind done]
        rfl

end Outcome

section Collected
variable {verbose : Bool} {contents : String → Except DiskError Bytes} {files : List String}

theorem collectCons {c : Collector} {path : String} {content : Except DiskError Bytes} {posts : List Post}
    (read : readPosts path content = .ok posts) (rest : List (String × Except DiskError Bytes)) :
    (collect verbose c ((path, content) :: rest)).2 = (collect verbose (c.addAll posts) rest).2 := by
  rw [collect, read]

theorem collectOk {exports : List (List Post)}
    (each : List.Forall₂ (fun file posts => Exports (contents file) posts) files exports) (c : Collector) :
    (collect verbose c (files.map fun file => (file, contents file))).2 = .ok (c.addAll exports.flatten) := by
  induction each generalizing c with
  | nil => rfl
  | cons first _ ih =>
    rw [List.map_cons, collectCons (readPostsIff.2 first), ih, List.flatten_cons, Collector.addAll, Collector.addAll,
      Collector.addAll, List.foldl_append]

theorem collectError {file : String} (inside : file ∈ files) (bad : ∀ posts, ¬Exports (contents file) posts)
    (c : Collector) : ∃ e, (collect verbose c (files.map fun file => (file, contents file))).2 = .error e := by
  induction files generalizing c with
  | nil => contradiction
  | cons first files ih =>
    rw [List.map_cons]
    cases read : readPosts first (contents first) with
    | error e => exact ⟨e, by rw [collect, read]⟩
    | ok posts =>
      rw [collectCons read]
      rcases List.mem_cons.1 inside with rfl | later
      · exact absurd (readPostsIff.1 read) (bad posts)
      · exact ih later _

end Collected

section Kept
variable {now : Instant} {s : Snapshot} {read : List Post}

structure Latest (now : Instant) (s : Snapshot) (read : List Post) : Prop where
  once : (ids s.posts).Nodup
  every : ∀ id, id ∈ ids s.posts ↔ id ∈ ids read
  last : ∀ p ∈ s.posts, lastUnder p.id read = some p
  ordered : s.posts.Pairwise Post.Newer
  metadata : s.metadata = {
    count := UInt64.ofNat s.posts.length
    createdAt := now
    earliest := s.posts.getLast?.map (·.createdAt)
    latest := s.posts.head?.map (·.createdAt)
    version := "1.0" }

theorem buildLatest (built : (Collector.addAll {} read).build now = .ok s) : Latest now s read := by
  have holds := Collector.holdsAll read
  have lists := Collector.buildLists holds.distinct built
  constructor
  · exact lists.distinct holds.distinct
  · intro id
    rw [ids, (lists.perm.map _).mem_iff, ← ids, holds.firstSeen, List.mem_eraseDups]
  · exact fun p inside => holds.last p (lists.perm.mem_iff.1 inside)
  · exact lists.ordered
  · unfold Collector.build at built
    split at built
    · contradiction
    · cases built
      rfl

theorem Latest.unique {t : Snapshot} (one : Latest now s read) (other : Latest now t read) : s = t := by
  have kept : ∀ {s}, Latest now s read → ∀ p, p ∈ s.posts ↔ lastUnder p.id read = some p := fun latest p =>
    Collector.memLast (fun id => (latest.every id).2) latest.last
  have perm : s.posts.Perm t.posts := by
    rw [List.perm_ext_iff_of_nodup (.of_map _ one.once) (.of_map _ other.once)]
    exact fun p => (kept one p).trans (kept other p).symm
  have posts : s.posts = t.posts := Post.newestUnique perm one.ordered other.ordered
  have metadata : s.metadata = t.metadata := by rw [one.metadata, other.metadata, posts]
  cases s
  cases t
  rw [Snapshot.mk.injEq]
  exact ⟨metadata, posts⟩

structure Fails (outcome : Report × Option Bytes) : Prop where
  code : outcome.1.code ≠ 0
  errors : outcome.1.errors ≠ []
  nothing : outcome.2 = none

structure Writes (outcome : Report × Option Bytes) (s : Snapshot) : Prop where
  code : outcome.1.code = 0
  errors : outcome.1.errors = []
  snapshot : ∃ bytes, outcome.2 = some bytes ∧ Container.readSnapshot bytes = .ok s

variable {o : Options} {files : List (String × Except DiskError Bytes)}

theorem failedFails (lines : List String) (message : String) : Fails (.failed lines message, none) :=
  ⟨Nat.one_ne_zero, List.cons_ne_nil _ _, rfl⟩

theorem madeError {e : Failure} (bad : (collect o.verbose {} files).2 = .error e) : Fails (made now o files) := by
  unfold made
  rcases collected : collect o.verbose {} files with ⟨lines, result⟩
  rw [collected] at bad
  cases bad
  exact failedFails _ _

theorem madeEmpty (nothing : (collect o.verbose {} files).2 = .ok {}) : Fails (made now o files) := by
  unfold made
  rcases collected : collect o.verbose {} files with ⟨lines, result⟩
  rw [collected] at nothing
  cases nothing
  exact failedFails _ _

theorem madeBuilt {c : Collector} (read : (collect o.verbose {} files).2 = .ok c) (some : c.posts ≠ #[])
    (built : c.build now = .ok s) (short : (Binary.writeSnapshot s).length < UInt32.size) :
    Writes (made now o files) s := by
  have present : ¬c.isEmpty := fun empty => some (Array.isEmpty_iff.1 empty)
  obtain ⟨bytes, packed⟩ : ∃ bytes, Container.writeSnapshot s = .ok bytes := ⟨_, Container.packFits short _⟩
  have wrote : c.toBytes now = .ok bytes := by
    simp only [Collector.toBytes, built, packed]
    rfl
  unfold made
  rcases collected : collect o.verbose {} files with ⟨lines, result⟩
  rw [collected] at read
  cases read
  simp only [if_neg present, wrote]
  exact ⟨rfl, rfl, bytes, rfl, (Container.readPacked Gzip.decodeEncode packed).2⟩

end Kept

/- The outcome is there before the place and the order in which a walk of it meets the files. -/
theorem directoryBuilt {files : List String} (distinct : files.Nodup) (contents : String → Except DiskError Bytes) :
    ∃ ordered, ordered.Perm files ∧ ordered.Pairwise (fun a b => bytesOf a < bytesOf b) ∧
      ∀ now o, ∃ outcome,
        (∀ {σ : Type} (disk : Disk (StateM σ)) s met, Directory disk s o.input met contents →
          (met.filter isJsonPath).Perm files → (∀ bytes, ((disk.write o.output bytes).run s).1 = .ok ()) →
            (run disk now o).run s = (outcome.1, written disk o.output s outcome.2)) ∧
        ((∃ file ∈ files, ∀ posts, ¬Exports (contents file) posts) → Fails outcome) ∧
        ∀ exports, List.Forall₂ (fun file posts => Exports (contents file) posts) ordered exports →
          (exports.flatten = [] → Fails outcome) ∧
          (exports.flatten ≠ [] → ∃ s, Latest now s exports.flatten ∧
            ((Binary.writeSnapshot s).length < UInt32.size → Writes outcome s)) := by
  refine ⟨sortPaths files, sortPathsPerm files, sortPathsAscending distinct, fun now o => ?_⟩
  refine ⟨made now o ((sortPaths files).map fun file => (file, contents file)), ?_, ?_, ?_⟩
  · intro σ disk s met directory perm writable
    rw [← sortPathsUnique perm]
    exact runMade directory writable
  · rintro ⟨file, inside, bad⟩
    obtain ⟨e, failed⟩ := collectError ((sortPathsPerm files).mem_iff.2 inside) bad {}
    exact madeError failed
  · intro exports each
    have read : (collect o.verbose {} _).2 = .ok _ := collectOk each {}
    refine ⟨fun nothing => ?_, fun some => ?_⟩
    · rw [nothing] at read
      exact madeEmpty read
    · have held := mt (Collector.emptyIff exports.flatten).1 some
      obtain ⟨s, built⟩ := Collector.buildOk held now
      exact ⟨s, buildLatest built, madeBuilt read held built⟩

section Gale

def gale (text : String) : Post where
  id := "9"
  text
  username := "u"
  createdAt := .midnight ⟨739406, by decide, by decide⟩

def exported (posts : List Post) : Bytes := bytesOf (Json.Value.array (posts.map Post.toJson)).text

def galeTree (a b : Bytes) : FileTree where
  files := [(["in", "b.json"], b), (["in", "notes.txt"], []), (["in", "a.json"], a)]

def galeOptions : Options := { input := "in", output := "out", verbose := false }

def galeSnapshot : Snapshot where
  metadata := {
    count := 1
    createdAt := (gale "").createdAt
    earliest := some (gale "").createdAt
    latest := some (gale "").createdAt
    version := "1.0" }
  posts := [gale "late"]

theorem exportedRead (posts : List Post) : Exports (.ok (exported posts)) posts := by
  have undone := Json.Undoes.list Json.postUndone
  refine .array (Binary.textOfBytes _) ?_
  rw [Json.Value.parseText (undone.formed posts)]
  exact undone.decoded posts

theorem galeMet (a b : Bytes) : ((galeTree a b).walk "in").filter isJsonPath = ["in/b.json", "in/a.json"] := by
  cbv

theorem galeDirectory (a b : Bytes) : (galeTree a b).kind "in" = .directory := by
  cbv

theorem galeA (a b : Bytes) : (galeTree a b).read "in/a.json" = .ok a := by
  cbv

theorem galeB (a b : Bytes) : (galeTree a b).read "in/b.json" = .ok b := by
  cbv

def turned (t : FileTree) : FileTree := { t with files := t.files.reverse }

theorem galeLatest : Latest (gale "").createdAt galeSnapshot [gale "early", gale "late"] where
  once := by decide
  every := by simp [galeSnapshot, ids, gale]
  last := by decide
  ordered := by decide
  metadata := rfl

theorem galeWritable (a b bytes : Bytes) : ∀ t ∈ [galeTree a b, turned (galeTree a b)],
    ((FileTree.disk.write "out" bytes).run t).1 = .ok () := by
  rintro t inside
  rcases List.mem_pair.1 inside with rfl | rfl <;> cbv

theorem galeWalked (a b : Bytes) : ∀ t ∈ [galeTree a b, turned (galeTree a b)],
    ∃ met, Directory FileTree.disk t "in" met (galeTree a b).read ∧
      (met.filter isJsonPath).Perm ["in/a.json", "in/b.json"] := by
  have shuffled : ∀ t ∈ [galeTree a b, turned (galeTree a b)], (galeTree a b).Shuffled t := by
    intro t inside
    rcases List.mem_pair.1 inside with rfl | rfl
    · exact ⟨.refl _, by simp [galeTree], rfl⟩
    · exact ⟨List.reverse_perm _, by simp [galeTree], rfl⟩
  intro t inside
  have met := ((shuffled t inside).walk "in").filter isJsonPath
  rw [galeMet] at met
  exact ⟨t.walk "in", treeDirectory (shuffled t inside) (galeDirectory a b), met.trans (.swap _ _ _)⟩

/- The later text is kept, whichever file a walk meets first; an empty file is no array. -/
theorem galeBuilt :
    let now := (gale "").createdAt
    let early := exported [gale "early"]
    let late := exported [gale "late"]
    (∃ report bytes, Container.readSnapshot bytes = .ok galeSnapshot ∧ report.code = 0 ∧
      ∀ t ∈ [galeTree early late, turned (galeTree early late)],
        (run FileTree.disk now galeOptions).run t = (report, written FileTree.disk "out" t (some bytes))) ∧
    ∃ report, report.code ≠ 0 ∧ ∀ t ∈ [galeTree early [], turned (galeTree early [])],
      (run FileTree.disk now galeOptions).run t = (report, t) := by
  intro now early late
  have distinct : ["in/a.json", "in/b.json"].Nodup := by decide
  have order : ["in/a.json", "in/b.json"].Pairwise fun a b => bytesOf a < bytesOf b := by
    simpa using bytesLt (show "in/a.json" < "in/b.json" by decide)
  constructor
  · obtain ⟨ordered, perm, ascending, builds⟩ := directoryBuilt distinct (galeTree early late).read
    obtain rfl : ordered = ["in/a.json", "in/b.json"] :=
      perm.eq_of_pairwise (fun _ _ _ _ first second => absurd first (List.lt_asymm second)) ascending order
    obtain ⟨outcome, runs, -, built⟩ := builds now galeOptions
    have each : List.Forall₂ (fun file posts => Exports ((galeTree early late).read file) posts)
        ["in/a.json", "in/b.json"] [[gale "early"], [gale "late"]] :=
      .cons (galeA early late ▸ exportedRead _) (.cons (galeB early late ▸ exportedRead _) .nil)
    obtain ⟨s, latest, writes⟩ := (built _ each).2 (List.cons_ne_nil _ _)
    obtain rfl : s = galeSnapshot := latest.unique galeLatest
    obtain ⟨code, -, bytes, wrote, read⟩ := writes (by decide +kernel)
    refine ⟨outcome.1, bytes, read, code, fun t inside => ?_⟩
    obtain ⟨met, directory, met'⟩ := galeWalked early late t inside
    rw [runs FileTree.disk t met directory met' fun bytes => galeWritable early late bytes t inside, wrote]
    rfl
  · obtain ⟨ordered, perm, ascending, builds⟩ := directoryBuilt distinct (galeTree early []).read
    obtain ⟨outcome, runs, failed, -⟩ := builds now galeOptions
    have empty : readPosts "" (.ok []) = .error (.malformed "") := by cbv
    have bad : ∀ posts, ¬Exports ((galeTree early []).read "in/b.json") posts := by
      intro posts read
      rw [galeB] at read
      have taken : readPosts "" (.ok []) = .ok posts := readPostsIff.2 read
      rw [empty] at taken
      contradiction
    have fails := failed ⟨_, by simp, bad⟩
    refine ⟨outcome.1, fails.code, fun t inside => ?_⟩
    obtain ⟨met, directory, met'⟩ := galeWalked early [] t inside
    rw [runs FileTree.disk t met directory met' fun bytes => galeWritable early [] bytes t inside, fails.nothing]
    rfl

end Gale

end Postboard.Command.Build
