import Postboard.Filter.Json
import Postboard.Pager
import Postboard.Plan.Json
import Postboard.Proofs.Json.Fields
import Postboard.Proofs.Time.Written
import Postboard.Snapshot.Json
import Postboard.Store.Json

/-! The whole data model in JSON: every value reads back from the text it is written as. Instants pass through
the lenient reader, and clauses are taken whole first. -/
namespace Postboard.Json

open Undoes

theorem instantUndone : Undoes Instant.ofJson? Instant.toJson where
  decoded t := by
    have characters : t.text.toList = t.write := String.toList_ofList
    simp [Instant.ofJson?, Instant.toJson, string.decoded, characters, Time.readLenientWrite]
  formed t := .string (some t.text)

theorem labelUndone : Undoes Post.sentimentOfJson? (Value.ofOption Sentiment.toJson) where
  decoded s := by
    cases s with
    | none => rfl
    | some s =>
      have label := Sentiment.ofLabelName s
      simpa [Post.sentimentOfJson?, Value.ofOption, Sentiment.toJson, Value.ofString, Value.option?,
        Value.string?] using label
  formed s := by
    cases s with
    | none => exact .null
    | some s => exact .string (some s.name)

theorem sentimentUndone : Undoes Sentiment.ofJson? Sentiment.toJson := named Sentiment.ofNameName

theorem categoryUndone : Undoes Category.ofJson? Category.toJson := named Category.ofNameName

/- What is absent is written as null, which no text is. -/
theorem optionalTextUndone : Undoes (Value.option? Value.string?) (Value.ofOption .ofString) :=
  option string fun _ => Value.noConfusion

theorem optionalSentimentUndone : Undoes (Value.option? Sentiment.ofJson?) (Value.ofOption Sentiment.toJson) :=
  option sentimentUndone fun _ => Value.noConfusion

theorem optionalInstantUndone : Undoes (Value.option? Instant.ofJson?) (Value.ofOption Instant.toJson) :=
  option instantUndone fun _ => Value.noConfusion

theorem postUndone : Undoes Post.ofJson? Post.toJson where
  decoded p := by
    have slots : slots? Post.fieldNames p.toJson = some [
        .given (.ofString p.id), .given (.ofString p.text), .given (.ofString p.username),
        .given (.ofOption .ofString p.url), .given (.ofNat p.likes.toNat), .given (.ofNat p.replies.toNat),
        .given (.ofNat p.retweets.toNat), .given (.ofOption Sentiment.toJson p.sentiment),
        .given p.createdAt.toJson, .given (.ofOption .ofString p.district)] := rfl
    have id : Post.idOfJson? (.ofString p.id) = some p.id := rfl
    simp [Post.ofJson?, slots, id, string.decoded, count.decoded, optionalTextUndone.decoded,
      labelUndone.decoded, instantUndone.decoded]
  formed p := recordFormed (by
    simp [string.formed, count.formed, optionalTextUndone.formed, labelUndone.formed, instantUndone.formed])

theorem pageUndone : Undoes Page.ofJson? Page.toJson where
  decoded p := by
    have slots : slots? Page.fieldNames p.toJson = some [
        .given (.array (p.posts.map Post.toJson)), .given (.ofNat p.total.toNat)] := rfl
    simp [Page.ofJson?, slots, (list postUndone).decoded, count.decoded]
  formed p := recordFormed (by simp [(list postUndone).formed, count.formed])

theorem typedOperand (type : String) (value : Value) :
    Operand.ofJson? (.record [("type", .ofString type), ("value", value)]) = Operand.ofTyped? type value := rfl

theorem operandUndone : Undoes Operand.ofJson? Operand.toJson where
  decoded o := by
    cases o with
    | text s => rfl
    | integer n => simp [Operand.toJson, typedOperand, Operand.ofTyped?, count.decoded]
    | timestamp t => simp [Operand.toJson, typedOperand, Operand.ofTyped?, instantUndone.decoded]
  formed o := by
    cases o <;> exact recordFormed (by simp [string.formed, count.formed, instantUndone.formed])

theorem comparisonUndone : Undoes Comparison.ofJson? Comparison.toJson where
  decoded c := by
    have slots : slots? [["field"], ["operator"], ["value"]] c.toJson = some [
        .given (.ofString c.field.column), .given (.ofString c.operator.name), .given c.operand.toJson] := rfl
    simp [Comparison.ofJson?, slots, (held Field.ofColumnColumn).decoded, (held Operator.ofNameName).decoded,
      operandUndone.decoded]
  formed c := recordFormed (by simp [Comparison.members, string.formed, operandUndone.formed])

theorem operandFits (o : Operand) (room : Nat) : o.toJson.fits (room + 1) := by
  cases o with
  | text s => rfl
  | integer n =>
    simp [Operand.toJson, Value.record, Value.ofString, Value.ofNat, Value.fits, Value.membersFit, countFinite]
  | timestamp t => rfl

theorem membersOfComparisonFit (c : Comparison) (room : Nat) : (Value.record c.members).fits (room + 2) := by
  simp [Comparison.members, Value.record, Value.ofString, Value.fits, Value.membersFit, operandFits]

theorem clauseFits (c : Clause) (room : Nat) : c.toJson.fits (room + 3) := by
  cases c with
  | only c =>
    have members := membersOfComparisonFit c (room + 1)
    simpa [Clause.toJson, Value.record, Value.ofString, Value.fits, Value.membersFit] using members
  | either left right =>
    have first := membersOfComparisonFit left room
    have second := membersOfComparisonFit right room
    simp_all [Clause.toJson, Comparison.toJson, Value.record, Value.ofString, Value.fits, Value.membersFit]

theorem clauseUndone {room : Nat} (deep : 3 ≤ room) : Undoes (Clause.ofJson? room) Clause.toJson where
  decoded c := by
    obtain ⟨more, rfl⟩ := Nat.exists_eq_add_of_le' deep
    rw [Clause.ofJson?, if_pos (clauseFits c more)]
    cases c with
    | only c =>
      have kind : Clause.kind? (Clause.only c).toJson = some ("match", c.toJson) := rfl
      simp [kind, comparisonUndone.decoded]
    | either left right =>
      have kind : Clause.kind? (Clause.either left right).toJson =
        some ("or", .record [("left", left.toJson), ("right", right.toJson)]) := rfl
      have slots : slots? [["left"], ["right"]] (.record [("left", left.toJson), ("right", right.toJson)]) =
        some [.given left.toJson, .given right.toJson] := rfl
      simp [kind, slots, comparisonUndone.decoded]
  formed c := by
    cases c with
    | only c =>
      exact recordFormed (by simp [Comparison.members, string.formed, operandUndone.formed])
    | either left right => exact recordFormed (by simp [string.formed, comparisonUndone.formed])

theorem sortKeyUndone : Undoes SortKey.ofJson? SortKey.toJson where
  decoded k := by
    have slots : slots? [["field"], ["descending"]] k.toJson = some [
        .given (.ofString k.field.column), .given (.bool k.descending)] := rfl
    simp [SortKey.ofJson?, slots, (named Field.ofColumnColumn).decoded, bool.decoded]
  formed k := recordFormed (by simp [string.formed, bool.formed])

theorem windowUndone : Undoes Window.ofJson? Window.toJson where
  decoded w := by
    have slots : slots? [["offset"], ["limit"]] w.toJson = some [
        .given (.ofNat w.offset.toNat), .given (.ofNat w.limit.toNat)] := rfl
    simp [Window.ofJson?, slots, count.decoded]
  formed w := recordFormed (by simp [count.formed])

theorem planUndone : Undoes Plan.ofJson? Plan.toJson where
  decoded p := by
    have slots : slots? [["clauses"], ["sort"], ["window"]] p.toJson = some [
        .given (.array (p.clauses.map Clause.toJson)), .given p.sort.toJson, .given p.window.toJson] := rfl
    have clauses := list (clauseUndone (show 3 ≤ Clause.documentRoom - 2 by decide))
    simp [Plan.ofJson?, slots, clauses.decoded, sortKeyUndone.decoded, windowUndone.decoded]
  formed p := by
    have clauses := list (clauseUndone (Nat.le_refl 3))
    exact recordFormed (by simp [clauses.formed, sortKeyUndone.formed, windowUndone.formed])

theorem pagerUndone : Undoes Pager.ofJson? Pager.toJson where
  decoded p := by
    have slots : slots? [["current_page"], ["items_per_page"], ["total_pages"]] p.toJson = some [
        .given (.ofNat p.current.toNat), .given (.ofNat p.perPage.toNat), .given (.ofNat p.pages.toNat)] := rfl
    simp [Pager.ofJson?, slots, count.decoded]
  formed p := recordFormed (by simp [count.formed])

theorem inputUndone : Undoes SearchInput.ofJson? SearchInput.toJson where
  decoded i := by
    have slots : slots? [["term"], ["category"]] i.toJson = some [
        .given (.ofString i.term), .given i.category.toJson] := rfl
    simp [SearchInput.ofJson?, slots, string.decoded, categoryUndone.decoded]
  formed i := recordFormed (by simp [string.formed, categoryUndone.formed])

theorem datesUndone : Undoes DateRange.ofJson? DateRange.toJson where
  decoded r := by
    have slots : slots? [["from"], ["to"]] r.toJson = some [
        .given (.ofOption .ofString r.lower), .given (.ofOption .ofString r.upper)] := rfl
    simp [DateRange.ofJson?, slots, optionalTextUndone.decoded]
  formed r := recordFormed (by simp [optionalTextUndone.formed])

theorem filtersUndone : Undoes Filters.ofJson? Filters.toJson where
  decoded f := by
    have slots : slots? [["inputs"], ["sentiment"], ["date_range"]] f.toJson = some [
        .given (.array (f.inputs.map SearchInput.toJson)), .given (.ofOption Sentiment.toJson f.sentiment),
        .given f.dates.toJson] := rfl
    simp [Filters.ofJson?, slots, (list inputUndone).decoded, optionalSentimentUndone.decoded, datesUndone.decoded]
  formed f := recordFormed (by
    simp [(list inputUndone).formed, optionalSentimentUndone.formed, datesUndone.formed])

theorem metadataUndone : Undoes Metadata.ofJson? Metadata.toJson where
  decoded m := by
    have slots : slots? [["record_count"], ["created_at"], ["earliest"], ["latest"], ["version"]] m.toJson = some [
        .given (.ofNat m.count.toNat), .given m.createdAt.toJson, .given (.ofOption Instant.toJson m.earliest),
        .given (.ofOption Instant.toJson m.latest), .given (.ofString m.version)] := rfl
    simp [Metadata.ofJson?, slots, string.decoded, count.decoded, optionalInstantUndone.decoded, instantUndone.decoded]
  formed m := recordFormed (by
    simp [string.formed, count.formed, optionalInstantUndone.formed, instantUndone.formed])

theorem dataModelRoundTrip :
    (∀ p : Post, (Value.parse? p.toJson.text).bind Post.ofJson? = some p) ∧
    (∀ p : Page, (Value.parse? p.toJson.text).bind Page.ofJson? = some p) ∧
    (∀ c : Clause, (Value.parse? c.toJson.text).bind (Clause.ofJson? Clause.documentRoom) = some c) ∧
    (∀ p : Plan, (Value.parse? p.toJson.text).bind Plan.ofJson? = some p) ∧
    (∀ f : Filters, (Value.parse? f.toJson.text).bind Filters.ofJson? = some f) ∧
    (∀ m : Metadata, (Value.parse? m.toJson.text).bind Metadata.ofJson? = some m) ∧
    (∀ p : Pager, (Value.parse? p.toJson.text).bind Pager.ofJson? = some p) :=
  ⟨postUndone.text, pageUndone.text, (clauseUndone (by decide)).text, planUndone.text, filtersUndone.text,
    metadataUndone.text, pagerUndone.text⟩

end Postboard.Json
