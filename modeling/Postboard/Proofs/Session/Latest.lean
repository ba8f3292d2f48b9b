import Postboard.Proofs.Session.Fetches

/-! Which response a session takes: one to the latest fetch, however many were sent. Before the first
fetch the counter stands at zero, and a response with the number zero is taken, though nothing was sent. -/
namespace Postboard.Session

/- A session that has sent nothing cannot be told from one whose latest fetch was number zero. -/
theorem latestIff (settings : Settings) (actions : List Action) (n : UInt64) :
    let numbers := ((new settings).sent actions).map (·.sequence)
    n = ((new settings).run actions).1.latest ↔ numbers.getLast? = some n ∨ numbers = [] ∧ n = 0 := by
  intro numbers
  rw [latestIsLastSent]
  change n = numbers.getLast?.getD 0 ↔ _
  cases last : numbers.getLast? with
  | none =>
    have empty := List.getLast?_eq_none_iff.1 last
    simp [empty]
  | some m =>
    have nonempty : numbers ≠ [] := by
      intro empty
      simp [empty] at last
    simp [nonempty, eq_comm]

theorem completeStaleIff (s : Session) (n : UInt64) (r : Response) :
    (s.complete n r).outcome = .stale ↔ n ≠ s.latest := by
  obtain ⟨late, same⟩ | ⟨page, current, _, same⟩ | ⟨e, current, _, same⟩ := s.completeCases n r
  · rw [same]
    exact ⟨fun _ => late, fun _ => rfl⟩
  · rw [same]
    exact ⟨nofun, fun late => absurd current late⟩
  · rw [same]
    exact ⟨nofun, fun late => absurd current late⟩

theorem onlyLatestAnswered (settings : Settings) (actions : List Action) (n : UInt64) (r : Response) :
    let s := ((new settings).run actions).1
    let numbers := ((new settings).sent actions).map (·.sequence)
    ((s.complete n r).outcome ≠ .stale ↔ numbers.getLast? = some n ∨ numbers = [] ∧ n = 0) ∧
    ((s.complete n r).session ≠ s → numbers.getLast? = some n ∨ numbers = [] ∧ n = 0) ∧
    (n ∉ numbers → numbers ≠ [] ∨ n ≠ 0 →
      s.act (.complete n r) = (s, .delivered .stale [.lateResponse n s.latest])) := by
  intro s numbers
  have latest : n = s.latest ↔ numbers.getLast? = some n ∨ numbers = [] ∧ n = 0 := latestIff settings actions n
  refine ⟨?_, ?_, ?_⟩
  · rw [← latest, Ne, completeStaleIff, not_not]
  · intro changed
    rw [← latest]
    by_contra late
    rw [completeLate late] at changed
    exact changed rfl
  · intro unsent started
    have late : n ≠ s.latest := by
      rw [Ne, latest]
      rintro (last | ⟨none, zero⟩)
      · exact unsent (List.mem_of_getLast? last)
      · rcases started with some | other
        · exact some none
        · exact other zero
    simp only [act, completeLate late, deliveredReply]

/- The very first response answers no fetch, and is shown all the same. -/
theorem zeroTakenUnsent :
    (new {}).sent [] = [] ∧ ((new {}).complete 0 (.ok ⟨[], 45⟩)).outcome = .applied ∧
    ((new {}).complete 0 (.ok ⟨[], 45⟩)).session.pager.pages = 3 := by
  decide

end Postboard.Session
