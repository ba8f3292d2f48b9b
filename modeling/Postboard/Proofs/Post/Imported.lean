import Postboard.Proofs.Collector.Held
import Postboard.Proofs.Json.Grammar
import Postboard.Proofs.Json.Integers
import Postboard.Proofs.Json.Members

/-! Posts as they are imported. The members of an object tell a post field by field, and that is all that is read: not
their order, nor members of other names. A number for an identifier is the text of its digits, and a label that names no
sentiment is none. Names and labels are texts; half of a surrogate pair is in none. -/
namespace Postboard
open Json Text

namespace Sentiment

def spellings : Sentiment → List String
  | positive => ["Positive", "positive"]
  | neutral => ["Neutral", "neutral"]
  | negative => ["Negative", "negative"]

theorem ofLabelIff {label : String} {s : Sentiment} :
    ofLabel? label = some s ↔ trim label.toList ∈ s.spellings.map String.toList := by
  unfold ofLabel?
  dsimp only
  generalize trim label.toList = word
  constructor
  · intro found
    split at found
    · cases found
      simpa [spellings]
    · split at found
      · cases found
        simpa [spellings]
      · split at found
        · cases found
          simpa [spellings]
        · contradiction
  · intro spelled
    cases s <;> simp only [spellings, List.map_cons, List.map_nil, List.mem_cons, List.not_mem_nil, or_false] at spelled <;>
      rcases spelled with rfl | rfl <;> rfl

end Sentiment

namespace Post

structure Told (members : List (String × Value)) (p : Post) : Prop where
  id : Tells idOfJson? none (valuesOf ["id"] members) p.id
  text : Tells Value.string? none (valuesOf ["text"] members) p.text
  username : Tells Value.string? none (valuesOf ["username"] members) p.username
  url : Tells (Value.option? Value.string?) (some none) (valuesOf ["url"] members) p.url
  likes : Tells Value.natural? (some 0) (valuesOf ["like_count"] members) p.likes
  replies : Tells Value.natural? (some 0) (valuesOf ["reply_count"] members) p.replies
  retweets : Tells Value.natural? (some 0) (valuesOf ["retweet_count"] members) p.retweets
  sentiment : Tells sentimentOfJson? (some none) (valuesOf ["sentiment_score"] members) p.sentiment
  createdAt : Tells Instant.ofJson? none (valuesOf ["created_at"] members) p.createdAt
  district : Tells (Value.option? Value.string?) (some none) (valuesOf ["district"] members) p.district

def parse? (text : String) : Option Post := (Value.parse? text).bind ofJson?

variable {members others known rest : List (String × Value)} {p : Post} {text : String}

theorem readIff : ofJson? (.record members) = some p ↔ p.Told members := by
  obtain ⟨id, text, username, url, likes, replies, retweets, sentiment, createdAt, district⟩ := p
  simp only [ofJson?, slotsRecord, fieldNames, List.mapM_cons, List.mapM_nil, bind, pure, Option.bind_eq_some_iff,
    requiredRead, orElseRead, Option.some.injEq, existsAndEq, true_and, and_true, exists_exists_and_eq_and, mk.injEq]
  constructor
  · rintro ⟨a, b, c, d, e, f, g, h, i, j, ⟨inA, inB, inC, inD, inE, inF, inG, inH, inI, inJ⟩,
      readA, readB, readC, readD, readE, readF, readG, readH, readI, readJ⟩
    exact ⟨readTells.1 ⟨a, inA, readA⟩, readTells.1 ⟨b, inB, readB⟩, readTells.1 ⟨c, inC, readC⟩,
      readTells.1 ⟨d, inD, readD⟩, readTells.1 ⟨e, inE, readE⟩, readTells.1 ⟨f, inF, readF⟩,
      readTells.1 ⟨g, inG, readG⟩, readTells.1 ⟨h, inH, readH⟩, readTells.1 ⟨i, inI, readI⟩, readTells.1 ⟨j, inJ, readJ⟩⟩
  · intro told
    obtain ⟨a, inA, readA⟩ := readTells.2 told.id
    obtain ⟨b, inB, readB⟩ := readTells.2 told.text
    obtain ⟨c, inC, readC⟩ := readTells.2 told.username
    obtain ⟨d, inD, readD⟩ := readTells.2 told.url
    obtain ⟨e, inE, readE⟩ := readTells.2 told.likes
    obtain ⟨f, inF, readF⟩ := readTells.2 told.replies
    obtain ⟨g, inG, readG⟩ := readTells.2 told.retweets
    obtain ⟨h, inH, readH⟩ := readTells.2 told.sentiment
    obtain ⟨i, inI, readI⟩ := readTells.2 told.createdAt
    obtain ⟨j, inJ, readJ⟩ := readTells.2 told.district
    exact ⟨a, b, c, d, e, f, g, h, i, j, ⟨inA, inB, inC, inD, inE, inF, inG, inH, inI, inJ⟩,
      readA, readB, readC, readD, readE, readF, readG, readH, readI, readJ⟩

theorem Told.same (perm : ∀ names ∈ fieldNames, (valuesOf names members).Perm (valuesOf names others))
    (told : p.Told members) : p.Told others := by
  simp only [fieldNames, List.forall_mem_cons, List.not_mem_nil, false_imp_iff, implies_true, and_true] at perm
  obtain ⟨id, text, username, url, likes, replies, retweets, sentiment, createdAt, district⟩ := perm
  exact ⟨told.id.same id, told.text.same text, told.username.same username, told.url.same url, told.likes.same likes,
    told.replies.same replies, told.retweets.same retweets, told.sentiment.same sentiment,
    told.createdAt.same createdAt, told.district.same district⟩

theorem parseIff (presents : Presents fieldNames text known) : parse? text = some p ↔ p.Told known := by
  obtain ⟨members, unknown, read, perm, apart⟩ := presents
  have same : ∀ names ∈ fieldNames, (valuesOf names members).Perm (valuesOf names known) :=
    fun names field => valuesPresented perm apart field
  rw [parse?, read, Option.bind_some, readIff]
  exact ⟨Told.same same, Told.same fun names field => (same names field).symm⟩

theorem parseRepeated {members rest : List (Option String × Value)} {name : String} {v w : Value}
    (read : Value.parse? text = some (.object members)) (field : [name] ∈ fieldNames)
    (perm : members.Perm ((some name, v) :: (some name, w) :: rest)) : parse? text = none := by
  have here := List.mem_singleton_self name
  rw [parse?, read, Option.bind_some, ofJson?, slotsRepeated field here here perm]
  rfl

theorem Told.identified (told : p.Told members) {id : String}
    (kept : ∀ names ∈ fieldNames, names ≠ ["id"] → (valuesOf names members).Perm (valuesOf names others))
    (tells : Tells idOfJson? none (valuesOf ["id"] others) id) : ({ p with id } : Post).Told others :=
  ⟨tells, told.text.same (kept _ (by decide) (by decide)), told.username.same (kept _ (by decide) (by decide)),
    told.url.same (kept _ (by decide) (by decide)), told.likes.same (kept _ (by decide) (by decide)),
    told.replies.same (kept _ (by decide) (by decide)), told.retweets.same (kept _ (by decide) (by decide)),
    told.sentiment.same (kept _ (by decide) (by decide)), told.createdAt.same (kept _ (by decide) (by decide)),
    told.district.same (kept _ (by decide) (by decide))⟩

theorem Told.labelled (told : p.Told members) {sentiment : Option Sentiment}
    (kept : ∀ names ∈ fieldNames, names ≠ ["sentiment_score"] → (valuesOf names members).Perm (valuesOf names others))
    (tells : Tells sentimentOfJson? (some none) (valuesOf ["sentiment_score"] others) sentiment) :
    ({ p with sentiment } : Post).Told others :=
  ⟨told.id.same (kept _ (by decide) (by decide)), told.text.same (kept _ (by decide) (by decide)),
    told.username.same (kept _ (by decide) (by decide)), told.url.same (kept _ (by decide) (by decide)),
    told.likes.same (kept _ (by decide) (by decide)), told.replies.same (kept _ (by decide) (by decide)),
    told.retweets.same (kept _ (by decide) (by decide)), tells, told.createdAt.same (kept _ (by decide) (by decide)),
    told.district.same (kept _ (by decide) (by decide))⟩

section Identifier
variable {v w : Value} {id : String}

theorem toldId (told : p.Told (("id", v) :: rest)) : valuesOf ["id"] rest = [] ∧ idOfJson? v = some p.id := by
  have first := told.id
  rw [valuesHere (List.mem_singleton_self "id")] at first
  exact tellsFirst first

theorem toldOtherId (told : p.Told (("id", v) :: rest)) (read : idOfJson? w = some id) :
    ({ p with id } : Post).Told (("id", w) :: rest) := by
  have apart : ∀ names ∈ fieldNames, names ≠ ["id"] → "id" ∉ names := by decide
  apply told.identified
  · intro names field other
    rw [valuesElsewhere (apart names field other), valuesElsewhere (apart names field other)]
  · rw [valuesHere (List.mem_singleton_self "id"), (toldId told).1]
    exact .given read

theorem integerTextDecimal (i : Int) : integerText i = toString i := by
  cases i with
  | ofNat n => simp [integerText, toString, Int.repr]
  | negSucc n => simp [integerText, toString, Int.repr]

theorem idOfWritten {n : Number} (formed : n.Formed) {i : Int} (fits : InWord i)
    (written : n.write = (toString i).toList) : idOfJson? (.number n) = some (toString i) := by
  rw [idOfJson?, (Number.integerIff formed).2 ⟨fits, written⟩, Option.map_some, integerTextDecimal]

theorem idOfOther {n : Number} (formed : n.Formed) (other : ∀ i, InWord i → n.write ≠ (toString i).toList) :
    idOfJson? (.number n) = none := by
  rw [idOfJson?, Option.map_eq_none_iff, Option.eq_none_iff_forall_ne_some]
  intro i read
  obtain ⟨fits, written⟩ := (Number.integerIff formed).1 read
  exact other i fits written

end Identifier

theorem numberFormed {n : Number} {name : String} (presents : Presents fieldNames text ((name, .number n) :: rest)) :
    n.Formed := by
  obtain ⟨members, unknown, read, perm, -⟩ := presents
  have inside : (name, Value.number n) ∈ members := perm.mem_iff.2 List.mem_cons_self
  cases Value.parseFormed read with
  | object each =>
    cases each _ (List.mem_map_of_mem inside) with
    | number formed => exact formed

theorem labelOfNull : sentimentOfJson? .null = some none := rfl

theorem labelOfText (label : String) : sentimentOfJson? (.ofString label) = some (Sentiment.ofLabel? label) := rfl

section Label
variable (absent : ∀ m ∈ rest, m.1 ≠ "sentiment_score") (told : p.Told rest)
include absent

theorem labelsAbsent : valuesOf ["sentiment_score"] rest = [] :=
  valuesUnknown fun m inside => by simpa using absent m inside

include told

theorem toldUnlabelled : p.sentiment = none := by
  have label := told.sentiment
  rw [labelsAbsent absent] at label
  exact (Option.some.inj (tellsNone label)).symm

theorem toldLabel {v : Value} {sentiment : Option Sentiment} (read : sentimentOfJson? v = some sentiment) :
    ({ p with sentiment } : Post).Told (("sentiment_score", v) :: rest) := by
  have apart : ∀ names ∈ fieldNames, names ≠ ["sentiment_score"] → "sentiment_score" ∉ names := by decide
  apply told.labelled
  · intro names field other
    rw [valuesElsewhere (apart names field other)]
  · rw [valuesHere (List.mem_singleton_self "sentiment_score"), labelsAbsent absent]
    exact .given read

end Label

theorem heldLast (added : List Post) (p : Post) {q : Post} {id : String} (same : q.id = id) :
    (Collector.addAll {} (added ++ [p, q])).posts.toList.filter (·.id = id) = [q] := by
  apply Collector.heldAlone (Collector.holdsAll _)
  rw [← List.singleton_append, ← List.append_assoc, Collector.lastUnderSnoc, if_pos same]

theorem importNormalised :
    -- Neither the order of the members counts nor what stands under other names, and no field is given twice.
    (∀ known text other, Presents fieldNames text known → Presents fieldNames other known →
      parse? text = parse? other) ∧
    (∀ text members rest name v w, Value.parse? text = some (.object members) → [name] ∈ fieldNames →
      members.Perm ((some name, v) :: (some name, w) :: rest) → parse? text = none) ∧
    -- Where some identifier makes a post, any text does, any whole number in its digits, and no other number.
    (∀ base rest name p, Presents fieldNames base (("id", .ofString name) :: rest) → parse? base = some p → ∀ text,
      (∀ id, Presents fieldNames text (("id", .ofString id) :: rest) → parse? text = some { p with id }) ∧
      ∀ n, Presents fieldNames text (("id", .number n) :: rest) →
        (∀ i, InWord i → n.write = (toString i).toList → parse? text = some { p with id := toString i }) ∧
        ((∀ i, InWord i → n.write ≠ (toString i).toList) → parse? text = none)) ∧
    -- A collector holds one post under the number and its digits, whichever comes last.
    (∀ text other rest more n i p q, Presents fieldNames text (("id", .number n) :: rest) → InWord i →
      n.write = (toString i).toList → Presents fieldNames other (("id", .ofString (toString i)) :: more) →
      parse? text = some p → parse? other = some q → ∀ added,
        (Collector.addAll {} (added ++ [p, q])).posts.toList.filter (·.id = toString i) = [q] ∧
        (Collector.addAll {} (added ++ [q, p])).posts.toList.filter (·.id = toString i) = [p]) ∧
    -- Every label makes a post where none does.
    (∀ base rest p, Presents fieldNames base rest → (∀ m ∈ rest, m.1 ≠ "sentiment_score") → parse? base = some p →
      p.sentiment = none ∧ ∀ text,
        (Presents fieldNames text (("sentiment_score", .null) :: rest) → parse? text = some p) ∧
        ∀ label, Presents fieldNames text (("sentiment_score", .ofString label) :: rest) →
          parse? text = some { p with sentiment := Sentiment.ofLabel? label }) ∧
    (∀ label s, Sentiment.ofLabel? label = some s ↔ trim label.toList ∈ s.spellings.map String.toList) := by
  refine ⟨?_, ?_, ?_, ?_, ?_, ?_⟩
  · intro known text other presents also
    apply Option.ext
    intro p
    rw [parseIff presents, parseIff also]
  · intro text members rest name v w read field perm
    exact parseRepeated read field perm
  · intro base rest name p presents read text
    have told := (parseIff presents).1 read
    refine ⟨fun id also => (parseIff also).2 (toldOtherId told rfl), fun n also => ⟨?_, ?_⟩⟩
    · intro i fits written
      exact (parseIff also).2 (toldOtherId told (idOfWritten (numberFormed also) fits written))
    · intro other
      rw [Option.eq_none_iff_forall_ne_some]
      intro q found
      have id := (toldId ((parseIff also).1 found)).2
      rw [idOfOther (numberFormed also) other] at id
      contradiction
  · intro text other rest more n i p q presents fits written also read found added
    have first := (toldId ((parseIff presents).1 read)).2
    rw [idOfWritten (numberFormed presents) fits written] at first
    have second := (toldId ((parseIff also).1 found)).2
    have one : p.id = toString i := (Option.some.inj first).symm
    have two : q.id = toString i := (Option.some.inj second).symm
    exact ⟨heldLast added p two, heldLast added q one⟩
  · intro base rest p presents absent read
    have told := (parseIff presents).1 read
    have label := toldUnlabelled absent told
    refine ⟨label, fun text => ⟨fun also => ?_, fun label also => ?_⟩⟩
    · have kept := (parseIff also).2 (toldLabel absent told labelOfNull)
      rwa [← label] at kept
    · exact (parseIff also).2 (toldLabel absent told (labelOfText label))
  · intro label s
    exact Sentiment.ofLabelIff

def rainyDay : Instant := .midnight ⟨739404, by decide, by decide⟩

def rain (id : String) : Post := { id, text := "rain", username := "u", createdAt := rainyDay }

def rainMembers : List (String × Value) :=
  [("text", .ofString "rain"), ("created_at", .ofString "2024-06-02T00:00:00Z"), ("username", .ofString "u")]

def remark : Value := .array [.number { whole := ['1'], exponent := some (false, ['9', '9', '9']) }, .string none]

def rainText (id : Value) : String := (Value.record (("id", id) :: rainMembers)).text

def remarkedText (id : Value) : String := (Value.record (rainMembers ++ [("remark", remark), ("id", id)])).text

def repeatedText : String := (Value.record (("text", .ofString "rain") :: rainMembers)).text

def labelledText (label : String) : String :=
  (Value.record (("sentiment_score", .ofString label) :: ("id", .ofString "7") :: rainMembers)).text

theorem rainMembersFormed : ∀ m ∈ rainMembers, m.2.Formed := by
  simp [rainMembers, Undoes.string.formed]

theorem remarkFormed : remark.Formed := by
  have read : Value.parse? "[1e999, \"\\ud800\"]" = some remark := by cbv
  exact Value.parseFormed read

section Rain
variable {id : Value} (formed : id.Formed)
include formed

theorem rainPresents : Presents fieldNames (rainText id) (("id", id) :: rainMembers) :=
  presentsWritten (.of_eq (List.append_nil _).symm) (by simp) (List.forall_mem_cons.2 ⟨formed, rainMembersFormed⟩)

theorem remarkedPresents : Presents fieldNames (remarkedText id) (("id", id) :: rainMembers) := by
  have perm : (rainMembers ++ [("remark", remark), ("id", id)]).Perm
      (("id", id) :: rainMembers ++ [("remark", remark)]) := by
    rw [List.append_cons]
    exact List.perm_append_singleton _ _
  apply presentsWritten perm (by decide)
  simp only [List.mem_append, List.mem_cons, List.not_mem_nil, or_false]
  rintro m (inside | rfl | rfl)
  · exact rainMembersFormed m inside
  · exact remarkFormed
  · exact formed

end Rain

theorem labelledPresents (label : String) : Presents fieldNames (labelledText label)
    (("sentiment_score", .ofString label) :: ("id", .ofString "7") :: rainMembers) :=
  presentsWritten (.of_eq (List.append_nil _).symm) (by simp)
    (List.forall_mem_cons.2 ⟨.string _, List.forall_mem_cons.2 ⟨.string _, rainMembersFormed⟩⟩)

theorem rainImported :
    parse? (rainText (.ofString "7")) = some (rain "7") ∧
    parse? (remarkedText (.ofString "7")) = parse? (rainText (.ofString "7")) ∧
    parse? (remarkedText (.number (.ofInt 7))) = some (rain "7") ∧
    parse? (remarkedText (.number (.ofInt (-2 ^ 63)))) = some (rain "-9223372036854775808") ∧
    parse? (remarkedText (.number (.ofInt (2 ^ 64)))) = none ∧
    parse? repeatedText = none ∧
    parse? (labelledText " positive\t") = some { rain "7" with sentiment := some .positive } ∧
    (Collector.addAll {} [rain "7", { rain "7" with sentiment := some .positive }]).posts.toList.filter (·.id = "7") =
      [{ rain "7" with sentiment := some .positive }] := by
  obtain ⟨order, repeated, identifiers, tweets, labels, spelled⟩ := importNormalised
  have text := rainPresents (Undoes.string.formed "7")
  have remarked : ∀ i, Presents fieldNames (remarkedText (.number (.ofInt i)))
      (("id", .number (.ofInt i)) :: rainMembers) :=
    fun i => remarkedPresents (.number (Number.ofIntFormed i))
  have read : parse? (rainText (.ofString "7")) = some (rain "7") := by
    rw [parseIff text, ← readIff]
    cbv
  have seven := ((identifiers _ _ _ _ text read _).2 _ (remarked 7)).1 7 (by decide) (Number.writeOfInt 7)
  have lowest := ((identifiers _ _ _ _ text read _).2 _ (remarked (-2 ^ 63))).1 (-2 ^ 63) (by decide) (Number.writeOfInt _)
  have above : ∀ i, InWord i → (Number.ofInt (2 ^ 64)).write ≠ (toString i).toList := by
    intro i fits written
    obtain rfl := Number.ofIntInjective ((Number.writtenLikeIff (Number.ofIntFormed _)).1 written)
    exact absurd fits (by decide)
  have beyond := ((identifiers _ _ _ _ text read _).2 _ (remarked (2 ^ 64))).2 above
  have twice : parse? repeatedText = none := by
    have each : ∀ m ∈ ("text", Value.ofString "rain") :: rainMembers, m.2.Formed :=
      List.forall_mem_cons.2 ⟨.string _, rainMembersFormed⟩
    exact repeated _ _ _ "text" _ _ (Value.parseText (recordFormed each)) (by decide) (.refl _)
  have labelled := ((labels _ _ _ text (by simp [rainMembers]) read).2 _).2 " positive\t" (labelledPresents _)
  have positive : Sentiment.ofLabel? " positive\t" = some .positive := (spelled _ _).2 (by decide)
  rw [positive] at labelled
  have also := (labelledPresents " positive\t").reordered (.swap _ _ _)
  exact ⟨read, order _ _ _ (remarkedPresents (Undoes.string.formed "7")) text, seven, lowest, beyond, twice, labelled,
    (tweets _ _ _ _ _ 7 _ _ (remarked 7) (by decide) (Number.writeOfInt 7) also seven labelled []).1⟩

end Post
end Postboard
