import Postboard.Proofs.Filter.Days
import Postboard.Proofs.Request.Disjunction
import Postboard.Proofs.Time.Profile

/-! The instant of a clause about the time of a post. Its text names that very instant, to the nanosecond, wherever it
is read: in either date picker, and by the service that a request is sent to. Years of more than four digits, and
those before year 0, have texts that the pickers do not take. -/
namespace Postboard
open Text Time

namespace Period

variable {lower upper : List Char} {t : Instant}

theorem readBlank : Instant.read? [] = none ∧ Date.read? [] = none := ⟨rfl, rfl⟩

theorem pickedStop (read : Instant.read? upper = some t) :
    (ofPickers lower upper).clauses = (ofPickers lower []).clauses ++ [.only (.created .lte t)] := by
  simp [clauses, ofPickers, read, readBlank]

theorem pickedStart (read : Instant.read? lower = some t) :
    (ofPickers lower upper).clauses = .only (.created .gte t) :: (ofPickers [] upper).clauses := by
  cases stop : Instant.read? upper <;> simp [clauses, ofPickers, read, stop, readBlank]

end Period

namespace Request

def Sends (query : String) (place : Nat) (op : Operator) (t : Instant) : Prop :=
  ∃ value operand, (readQuery query)[place]? = some (some (Field.createdAt.column, value)) ∧
    readName? value.toList = some ((operatorWord op).toList, operand) ∧ Instant.read? operand = some t

theorem sendsCreated (settings : Settings) {plan : Plan} {i : Nat} {op : Operator} {t : Instant} (year : t.FourDigits)
    (asked : plan.clauses[i]? = some (.only (.created op t))) :
    Sends (ofPlan settings plan).queryString (i + 1) op t := by
  have within := (List.getElem?_eq_some_iff.1 asked).1
  have parameter : (ofPlan settings plan).parameters[i + 1]? = some (clauseParameter (.only (.created op t))) := by
    show (parametersOf settings plan)[i + 1]? = _
    rw [parametersOf, List.cons_append, List.getElem?_cons_succ, List.getElem?_append_left (by simpa using within),
      List.getElem?_map, asked, Option.map_some]
  refine ⟨(clauseParameter (.only (.created op t))).2, t.text.toList, ?_, ?_, ?_⟩
  · rw [readQueryOfPlan, List.getElem?_map, parameter]
    rfl
  · rw [clauseParameter, String.toList_ofList, createdOperand]
    exact readNameWritten (operatorWordApart op) _
  · rw [Instant.text, String.toList_ofList, readWrite year]

end Request

theorem DateRange.sideNone : side none = [] := rfl

theorem DateRange.sideText (t : Instant) : side (some t.text) = t.write := by
  rw [side, Option.getD_some, Instant.text, String.toList_ofList, writeTrimmed]

theorem instantKept {t : Instant} (year : t.FourDigits) :
    let text := (Operand.timestamp t).write
    (∃ f nano, Profile f nano 0 text.toList) ∧ Instant.read? text.toList = some t ∧
    (∀ lower, (DateRange.period ⟨lower, some text⟩).clauses =
      (DateRange.period ⟨lower, none⟩).clauses ++ [.only (.created .lte t)]) ∧
    (∀ upper, (DateRange.period ⟨some text, upper⟩).clauses =
      .only (.created .gte t) :: (DateRange.period ⟨none, upper⟩).clauses) ∧
    (DateRange.period ⟨none, none⟩).clauses = [] ∧
    (∀ (settings : Settings) (plan : Plan) (i : Nat) (op : Operator), plan.clauses[i]? = some (.only (.created op t)) →
      ∃ sent, Request.Sends (Request.ofPlan settings plan).queryString (i + 1) op sent ∧
        ∀ p : Post, (Clause.only (.created op t)).matchesPost p = op.holds (compare p.createdAt sent)) ∧
    ∀ other : Instant, other.FourDigits → (Operand.timestamp other).write = text → other = t := by
  intro text
  have characters : text.toList = t.write := String.toList_ofList
  have read := readWrite year
  have side : DateRange.side (some text) = t.write := DateRange.sideText t
  refine ⟨⟨_, _, characters ▸ writeProfile year⟩, by rw [characters, read], ?_, ?_, rfl, ?_, ?_⟩
  · intro lower
    simp only [DateRange.period, DateRange.sideNone, side, Period.pickedStop read]
  · intro upper
    simp only [DateRange.period, DateRange.sideNone, side, Period.pickedStart read]
  · intro settings plan i op asked
    refine ⟨t, Request.sendsCreated settings year asked, fun p => ?_⟩
    have selects := selectsCreated op t p
    rwa [Plan.selects, List.all_cons, List.all_nil, Bool.and_true] at selects
  · intro other _ same
    exact Request.instantTextInjective same

def lastLeapSecond : Instant := ⟨⟨3652424, by decide, by decide⟩, 24 * 3600 - 1, 1000000001, by decide, by decide⟩

theorem lastLeapSecondKept :
    lastLeapSecond.FourDigits ∧ (Operand.timestamp lastLeapSecond).write = "9999-12-31T23:59:60.000000001Z" ∧
    Instant.read? (Operand.timestamp lastLeapSecond).write.toList = some lastLeapSecond ∧
    (DateRange.period ⟨none, some (Operand.timestamp lastLeapSecond).write⟩).clauses =
      [.only (.created .lte lastLeapSecond)] ∧
    ∃ sent, Request.Sends
      (Request.ofPlan {} ⟨[.only (.created .lte lastLeapSecond)], {}, ⟨0, 20⟩⟩).queryString 1 .lte sent := by
  have year : lastLeapSecond.FourDigits := ⟨by decide, by decide⟩
  obtain ⟨-, read, stop, -, nothing, sends, -⟩ := instantKept year
  have lte := stop none
  rw [nothing, List.nil_append] at lte
  obtain ⟨sent, among, -⟩ := sends {} ⟨[.only (.created .lte lastLeapSecond)], {}, ⟨0, 20⟩⟩ 0 .lte rfl
  exact ⟨year, by decide +kernel, read, lte, sent, among⟩

end Postboard
