import Postboard.Command.FileTree

/-! Trees of files that a walk meets in another order. Nothing else can tell them apart, as long as no file is there
twice. -/
namespace Postboard.Command
open Gzip (Bytes)

namespace FileTree
variable {t u : FileTree}

structure Shuffled (t u : FileTree) : Prop where
  perm : u.files.Perm t.files
  distinct : (t.files.map (·.1)).Nodup
  directories : u.directories = t.directories

namespace Shuffled

theorem lookupPerm {files others : List (List String × Bytes)} (perm : others.Perm files)
    (distinct : (files.map (·.1)).Nodup) (place : List String) : others.lookup place = files.lookup place := by
  induction perm with
  | nil => rfl
  | cons file _ ih => rw [List.lookup_cons, List.lookup_cons, ih (List.nodup_cons.1 distinct).2]
  | swap a b files =>
    have apart : a.1 ≠ b.1 := fun same => (List.nodup_cons.1 distinct).1 (List.mem_cons.2 (.inl same))
    rw [List.lookup_cons, List.lookup_cons, List.lookup_cons, List.lookup_cons]
    by_cases first : place = a.1
    · have other : (place == b.1) = false := beq_false_of_ne (first ▸ apart)
      rw [other]
    · rw [beq_false_of_ne first]
  | trans _ second ih ih' => rw [ih ((second.map _).nodup_iff.2 distinct), ih' distinct]

variable (shuffled : Shuffled t u)
include shuffled

theorem isFile (place : List String) : u.isFile place = t.isFile place := shuffled.perm.any_eq

theorem isDirectory (place : List String) : u.isDirectory place = t.isDirectory place := by
  rw [FileTree.isDirectory, shuffled.directories, shuffled.perm.any_eq]
  rfl

theorem follow (place names : List String) : u.follow place names = t.follow place names := by
  induction names generalizing place with
  | nil => rfl
  | cons name names ih => simp only [FileTree.follow, shuffled.isFile, shuffled.isDirectory, ih]

theorem locate (path : String) : u.locate path = t.locate path := by
  simp only [FileTree.locate, shuffled.follow]

theorem kind (path : String) : u.kind path = t.kind path := by
  simp only [FileTree.kind, shuffled.locate, shuffled.isFile, shuffled.isDirectory]

theorem read (path : String) : u.read path = t.read path := by
  simp only [FileTree.read, shuffled.locate, shuffled.isDirectory, lookupPerm shuffled.perm shuffled.distinct]

theorem walk (path : String) : (u.walk path).Perm (t.walk path) := by
  rw [FileTree.walk, FileTree.walk, shuffled.locate]
  cases t.locate path with
  | ok place => exact shuffled.perm.filterMap _
  | error e => exact .refl _

end Shuffled
end FileTree
end Postboard.Command
