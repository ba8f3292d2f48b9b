import Postboard.Proofs.Text.LowerCase
import Postboard.Proofs.Text.Wildcard
import Postboard.Store

/-! Posts that hold the very characters of a term, in the text or in the name of the author. The term and the
post are lower-cased apart from each other, so such a post is found unless a capital sigma of the term ends a
word on one side and stands inside a word on the other. -/
namespace Postboard
open Text Wildcard LowerCase

theorem globSelf (p : List Char) {q t : List Char} (rest : Glob q t) : Glob (p ++ q) (p ++ t) := by
  induction p with
  | nil => exact rest
  | cons c p ih =>
    rcases Decidable.em (c = '*') with rfl | plain
    · exact .star ['*'] ih
    · exact .char plain ih

theorem occursInOfInfix {pattern text : List Char} (inside : lower pattern <:+: lower text) : occursIn pattern text := by
  obtain ⟨before, after, whole⟩ := inside
  rw [occursInIff, ← whole, List.append_assoc]
  have stop : Glob ['*'] after := List.append_nil after ▸ Glob.star after .done
  exact .star before (globSelf (lower pattern) stop)

theorem keptOccurs {before pattern after text : List Char} (here : text = before ++ pattern ++ after)
    (kept : SigmasKept before pattern after) : occursIn pattern text := by
  apply occursInOfInfix
  rw [here, lowerStretch, loweredIffKept.2 kept]
  exact ⟨_, _, rfl⟩

inductive Category.LooksIn : Category → List Field → Prop where
  | text : LooksIn .text [.text]
  | username : LooksIn .username [.username]
  | all : LooksIn .all [.text, .username]

theorem selectsFound {category : Category} {fields : List Field} (looks : category.LooksIn fields) {field : Field}
    (among : field ∈ fields) {term : String} {p : Post}
    (found : (Comparison.contains field (String.ofList (trim term.toList))).matchesPost p) :
    Plan.selects (SearchInput.clauses ⟨term, category⟩) p := by
  have any : fields.any fun field => (Comparison.contains field (String.ofList (trim term.toList))).matchesPost p :=
    List.any_eq_true.2 ⟨field, among, found⟩
  unfold SearchInput.clauses
  dsimp only
  split
  · rfl
  · cases looks <;> simpa [Plan.selects, Clause.matchesPost, Clause.comparisons] using any

theorem containsMatches (pattern : List Char) (p : Post) :
    (Comparison.contains .text (String.ofList pattern)).matchesPost p = occursIn pattern p.text.toList ∧
    (Comparison.contains .username (String.ofList pattern)).matchesPost p = occursIn pattern p.username.toList := by
  simp only [Comparison.matchesPost, Comparison.contains, Operator.holdsText, String.toList_ofList, and_self]

theorem literalOccurrenceFound (term : String) (p : Post) (before after : List Char) :
    let pattern := trim term.toList
    (p.text.toList = before ++ pattern ++ after → SigmasKept before pattern after →
      Plan.selects (SearchInput.clauses ⟨term, .text⟩) p ∧ Plan.selects (SearchInput.clauses ⟨term, .all⟩) p) ∧
    (p.username.toList = before ++ pattern ++ after → SigmasKept before pattern after →
      Plan.selects (SearchInput.clauses ⟨term, .username⟩) p ∧ Plan.selects (SearchInput.clauses ⟨term, .all⟩) p) ∧
    ('Σ' ∉ pattern → SigmasKept before pattern after) ∧
    (casedFirst before.reverse = false → casedFirst after = false → SigmasKept before pattern after) := by
  intro pattern
  refine ⟨?_, ?_, fun none => keptWithoutSigma none before after, fun start stop => keptApart start stop pattern⟩
  · intro here kept
    have found : (Comparison.contains .text (String.ofList pattern)).matchesPost p :=
      (containsMatches pattern p).1.trans (keptOccurs here kept)
    exact ⟨selectsFound .text List.mem_cons_self found, selectsFound .all List.mem_cons_self found⟩
  · intro here kept
    have found : (Comparison.contains .username (String.ofList pattern)).matchesPost p :=
      (containsMatches pattern p).2.trans (keptOccurs here kept)
    exact ⟨selectsFound .username List.mem_cons_self found,
      selectsFound .all (List.mem_cons_of_mem _ List.mem_cons_self) found⟩

def cosmos : Post :=
  { id := "1", text := "ΚΟΣΜΟΣ", username := "ΜΑΝΟΣ Κ", createdAt := .midnight ⟨739320, by decide, by decide⟩ }

theorem authorOfCosmosFound :
    cosmos.username.toList = "".toList ++ trim " ΜΑΝΟΣ".toList ++ " Κ".toList ∧
    SigmasKept [] (trim " ΜΑΝΟΣ".toList) " Κ".toList ∧
    Plan.selects (SearchInput.clauses ⟨" ΜΑΝΟΣ", .username⟩) cosmos ∧
    Plan.selects (SearchInput.clauses ⟨" ΜΑΝΟΣ", .all⟩) cosmos := by
  have here : cosmos.username.toList = "".toList ++ trim " ΜΑΝΟΣ".toList ++ " Κ".toList := by decide
  have found := literalOccurrenceFound " ΜΑΝΟΣ" cosmos [] " Κ".toList
  have kept := found.2.2.2 (by decide +kernel) (by decide +kernel)
  exact ⟨here, kept, found.2.1 here kept⟩

/- The same sigma ends the term, and stands inside a word of the text. -/
theorem startOfCosmosMissed :
    trim "ΚΟΣ".toList ≠ [] ∧ '*' ∉ "ΚΟΣ".toList ∧ trim "ΚΟΣ".toList <:+: cosmos.text.toList ∧
    Plan.selects (SearchInput.clauses ⟨"ΚΟΣ", .text⟩) cosmos = false ∧
    Plan.selects (SearchInput.clauses ⟨"ΚΟΣ", .all⟩) cosmos = false := by
  exact ⟨by decide, by decide, ⟨[], "ΜΟΣ".toList, by decide⟩, by decide +kernel, by decide +kernel⟩

end Postboard
