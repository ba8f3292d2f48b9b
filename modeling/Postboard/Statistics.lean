import Postboard.Number.Binary64
import Postboard.Post
import Std.Data.HashSet

/-! The figures of a board: how many posts, users and districts, and what the posts feel like. -/
namespace Postboard

structure Distribution where
  positive : Nat := 0
  neutral : Nat := 0
  negative : Nat := 0
  unlabeled : Nat := 0
  deriving DecidableEq

structure Average where
  negative : Bool := false
  hundredths : Nat := 0
  deriving DecidableEq

structure Statistics where
  posts : Nat
  users : Nat
  average : Average
  districts : Nat
  distribution : Distribution
  deriving DecidableEq

def Distribution.count (d : Distribution) : Option Sentiment → Distribution
  | some .positive => { d with positive := d.positive + 1 }
  | some .neutral => { d with neutral := d.neutral + 1 }
  | some .negative => { d with negative := d.negative + 1 }
  | none => { d with unlabeled := d.unlabeled + 1 }

def Distribution.ofPosts (posts : List Post) : Distribution :=
  posts.foldl (fun d p => d.count p.sentiment) {}

namespace Average

/-- The mean of `labeled` scores with this sum. The quotient is rounded to 53 binary digits, and so is
its hundredfold; then a half is rounded away from zero. -/
def ofSum (sum : Int) (labeled : Nat) : Average :=
  if labeled = 0 ∨ sum = 0 then {}
  else
    let (n, d) := Binary64.roundRatio sum.natAbs labeled
    let (n, d) := Binary64.roundRatio (100 * n) d
    { negative := sum < 0, hundredths := (2 * n + d) / (2 * d) }

def write (a : Average) : String :=
  let whole := (a.hundredths / 100).repr
  let rest := a.hundredths % 100
  (if a.negative then "-" else "") ++ whole ++
  (if rest = 0 then ""
    else if rest % 10 = 0 then "." ++ (rest / 10).repr
    else "." ++ (rest / 10).repr ++ (rest % 10).repr)

def writePoint (a : Average) : String := a.write ++ (if a.hundredths % 100 = 0 then ".0" else "")

end Average

namespace Statistics

def distinct (values : List String) : Nat :=
  (values.foldl (fun (seen : Std.HashSet String) v => seen.insert v) ∅).size

def district? (p : Post) : Option String :=
  let name := Text.trim ((p.district.getD "").toList)
  if name.isEmpty then none else some (String.ofList name)

def scoreSum (posts : List Post) : Int := (posts.filterMap (·.sentiment)).foldl (fun sum s => sum + s.score) 0

def ofPosts (posts : List Post) : Statistics :=
  let distribution := Distribution.ofPosts posts
  { posts := posts.length
    users := distinct (posts.map (·.username))
    average := .ofSum (scoreSum posts) (posts.length - distribution.unlabeled)
    districts := distinct (posts.filterMap district?)
    distribution }

end Statistics
end Postboard
