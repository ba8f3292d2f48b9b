import Postboard.Proofs.Session.Fetches

/-! The status of a session against the responses to its latest fetch. Responses may be lost, come in
any order or come more than once; they are only taken to answer a fetch that was sent, and to agree
with each other when they answer the same one. That a response comes at all is not assumed. -/
namespace Postboard.Session

def Action.answer (n : UInt64) : Action → Option Response
  | .complete m r => if m = n then some r else none
  | _ => none

def answers (n : UInt64) (actions : List Action) : List Response := actions.filterMap (·.answer n)

structure Exchange (s : Session) (actions : List Action) : Prop where
  noRefresh : ∀ source, .refresh source ∉ actions
  solicited : ∀ before n r after, actions = before ++ .complete n r :: after →
    ∃ f ∈ s.sent before, f.sequence = n
  consistent : ∀ n r r', .complete n r ∈ actions → .complete n r' ∈ actions → r = r'
  few : (s.sent actions).length < UInt64.size

def Reports (s : Session) (responses : List Response) : Prop :=
  match s.status with
  | .idle => False
  | .loading => responses = []
  | .loaded => responses ≠ [] ∧ (∀ r ∈ responses, r = .ok ⟨s.posts, s.total⟩) ∧ s.posts ≠ []
  | .empty => responses ≠ [] ∧ (∀ r ∈ responses, r = .ok ⟨s.posts, s.total⟩) ∧ s.posts = []
  | .failed message => responses ≠ [] ∧ ∀ r ∈ responses, ∃ e, r = .error e ∧ e.message = message

theorem answerSome {n : UInt64} {action : Action} {r : Response} :
    action.answer n = some r ↔ action = .complete n r := by
  cases action with
  | complete m r' =>
    simp only [Action.answer, Option.ite_none_right_eq_some, Option.some.injEq, Action.complete.injEq]
  | _ => simp [Action.answer]

theorem answersAppend (n : UInt64) (before after : List Action) :
    answers n (before ++ after) = answers n before ++ answers n after :=
  List.filterMap_append

theorem memAnswers {n : UInt64} {actions : List Action} {r : Response} :
    r ∈ answers n actions ↔ .complete n r ∈ actions := by
  simp only [answers, List.mem_filterMap, answerSome, exists_eq_right]

theorem answersOfEdit (n : UInt64) {action : Action} (edit : action.isEdit) : answers n [action] = [] := by
  cases action <;> simp_all [Action.isEdit, answers, Action.answer]

theorem exchangeBefore {s : Session} {actions : List Action} {action : Action}
    (run : Exchange s (actions ++ [action])) : Exchange s actions where
  noRefresh source member := run.noRefresh source (List.mem_append_left _ member)
  solicited before n r after same := run.solicited before n r (after ++ [action]) (by simp [same])
  consistent n r r' left right :=
    run.consistent n r r' (List.mem_append_left _ left) (List.mem_append_left _ right)
  few := by
    have few := run.few
    rw [sentSnoc, List.length_append] at few
    omega

theorem exchangeSolicited {s : Session} {actions : List Action} {n : UInt64} {r : Response}
    (run : Exchange s actions) (member : .complete n r ∈ actions) : ∃ f ∈ s.sent actions, f.sequence = n := by
  obtain ⟨before, after, split⟩ := List.append_of_mem member
  obtain ⟨f, sent, number⟩ := run.solicited before n r after split
  refine ⟨f, ?_, number⟩
  rw [split, sentAppend]
  exact List.mem_append_left _ sent

/- Nobody can have answered a fetch with a number that was not given out yet. -/
theorem exchangeUnanswered {s : Session} {actions : List Action} {n : UInt64}
    (run : Exchange s actions) (fresh : s.latest = 0)
    (new : (s.run actions).1.latest.toNat < n.toNat) : answers n actions = [] := by
  apply List.eq_nil_iff_forall_not_mem.2
  intro r member
  obtain ⟨f, sent, number⟩ := exchangeSolicited run (memAnswers.1 member)
  have bound := sentBound (by simpa [fresh] using run.few) sent
  rw [number] at bound
  omega

theorem reportsEdit {s : Session} {actions : List Action} {action : Action} (edit : action.isEdit)
    (reports : s.Reports (answers s.latest actions)) :
    (s.act action).1.Reports (answers (s.act action).1.latest (actions ++ [action])) := by
  have keeps := editKeeps s edit
  rw [keeps.latest, answersAppend, answersOfEdit _ edit, List.append_nil]
  simpa only [Reports, keeps.status, keeps.posts, keeps.total] using reports

theorem reportsIssue {s : Session} {actions : List Action}
    (unanswered : answers s.issue.1.latest actions = []) :
    s.issue.1.Reports (answers s.issue.1.latest (actions ++ [.issue])) := by
  rw [answersAppend, unanswered]
  rfl

theorem reportsOk {s : Session} {page : Page} {responses : List Response}
    (same : ∀ r ∈ responses, r = .ok page) : (s.showing page).Reports (responses ++ [.ok page]) := by
  have all : ∀ r ∈ responses ++ [.ok page], r = Except.ok page := by
    intro r member
    rcases List.mem_append.1 member with member | member
    · exact same r member
    · exact List.mem_singleton.1 member
  by_cases empty : page.posts = []
  · have status : (s.showing page).status = .empty := by simp [showing, empty]
    simp only [Reports, status]
    exact ⟨by simp, all, empty⟩
  · have status : (s.showing page).status = .loaded := by simp [showing, empty]
    simp only [Reports, status]
    exact ⟨by simp, all, empty⟩

theorem reportsError {s : Session} {e : StoreError} {responses : List Response}
    (same : ∀ r ∈ responses, r = .error e) :
    ({ s with status := .failed e.message } : Session).Reports (responses ++ [.error e]) := by
  refine ⟨by simp, ?_⟩
  intro r member
  rcases List.mem_append.1 member with member | member
  · exact ⟨e, same r member, rfl⟩
  · exact ⟨e, List.mem_singleton.1 member, rfl⟩

theorem reportsComplete {s : Session} {actions : List Action} {n : UInt64} {r : Response}
    (reports : s.Reports (answers s.latest actions))
    (agree : n = s.latest → ∀ r' ∈ answers s.latest actions, r' = r) :
    (s.complete n r).session.Reports (answers s.latest (actions ++ [.complete n r])) := by
  rw [answersAppend]
  obtain ⟨late, step⟩ | ⟨page, rfl, rfl, step⟩ | ⟨e, rfl, rfl, step⟩ := s.completeCases n r
  · have other : answers s.latest [.complete n r] = [] := by simp [answers, Action.answer, late]
    rw [other, List.append_nil, step]
    exact reports
  · have last : answers s.latest [.complete s.latest (.ok page)] = [.ok page] := by
      simp [answers, Action.answer]
    rw [last, step]
    exact reportsOk (agree rfl)
  · have last : answers s.latest [.complete s.latest (.error e)] = [.error e] := by
      simp [answers, Action.answer]
    rw [last, step]
    exact reportsError (agree rfl)

theorem issueRaisesLatest {s : Session} {actions : List Action} (fresh : s.latest = 0)
    (run : Exchange s (actions ++ [.issue])) :
    (s.run actions).1.latest.toNat < (s.run actions).1.issue.1.latest.toNat := by
  have earlier := latestAfterRun s actions (by simpa [fresh] using (exchangeBefore run).few)
  have later := latestAfterRun s (actions ++ [.issue]) (by simpa [fresh] using run.few)
  have one : s.sent (actions ++ [.issue]) = s.sent actions ++ [(s.run actions).1.issue.2] := sentSnoc ..
  rw [runSnoc, one, List.length_append, List.length_singleton] at later
  rw [earlier]
  exact Nat.lt_of_lt_of_eq (by omega) later.symm

/- The induction is on the end of the run: every action keeps the report true, and an issue starts a
new one, on a number that nothing can have come in for. -/
theorem exchangeReports {s : Session} (fresh : s.latest = 0) {actions : List Action}
    (run : Exchange s actions) (any : s.sent actions ≠ []) :
    (s.run actions).1.Reports (answers (s.run actions).1.latest actions) := by
  induction actions using List.reverseRecOn with
  | nil => exact absurd rfl any
  | append_singleton actions action ih =>
    have before := exchangeBefore run
    rw [runSnoc]
    rw [sentSnoc] at any
    obtain edit | rfl | ⟨n, r, rfl⟩ | ⟨source, rfl⟩ := action.kinds
    · rw [editSendsNothing _ edit, Option.toList_none, List.append_nil] at any
      exact reportsEdit edit (ih before any)
    · exact reportsIssue (exchangeUnanswered before fresh (issueRaisesLatest fresh run))
    · show ((s.run actions).1.complete n r).session.Reports
        (answers ((s.run actions).1.complete n r).session.latest _)
      rw [completeKeepsLatest]
      apply reportsComplete (ih before (by simpa [fetchOf] using any))
      intro current r' member
      subst current
      exact run.consistent _ r' r (List.mem_append_left _ (memAnswers.1 member)) (by simp)
    · exact absurd (by simp) (run.noRefresh source)

theorem statusReportsLatestFetch (settings : Settings) (actions : List Action)
    (run : Exchange (new settings) actions) :
    (((new settings).sent actions).map (·.sequence)).Pairwise (· < ·) ∧
    ∀ f, ((new settings).sent actions).getLast? = some f →
      ((new settings).run actions).1.Reports (answers f.sequence actions) := by
  have few : (new settings).latest.toNat + ((new settings).sent actions).length < UInt64.size := by
    simpa [new] using run.few
  refine ⟨sentAscending _ _ few, ?_⟩
  intro f last
  rw [sentLast last]
  apply exchangeReports rfl run
  intro empty
  simp [empty] at last

def rallyPost : Post :=
  { id := "7", text := "rally", username := "u", createdAt := .midnight ⟨0, by decide, by decide⟩ }

def overtaken : List Action := [
  .issue, .setSearch "rally" .all, .issue, .complete 2 (.ok ⟨[rallyPost], 1⟩),
  .complete 1 (.error .noSnapshot), .nextPage, .complete 2 (.ok ⟨[rallyPost], 1⟩)]

theorem overtakenExchange : Exchange (new {}) overtaken where
  noRefresh := by simp [overtaken]
  solicited := by
    intro before n r after split
    simp only [overtaken, List.cons_eq_append_iff, List.cons.injEq] at split
    simp at split
    obtain ⟨_, rfl, ⟨rfl, ⟨rfl, _⟩, _⟩ | ⟨_, rfl, ⟨rfl, ⟨rfl, _⟩, _⟩ | ⟨rfl, ⟨rfl, _⟩, _⟩⟩⟩ := split
    · exact ⟨_, .tail _ (.head _), rfl⟩
    · exact ⟨_, .head _, rfl⟩
    · exact ⟨_, .tail _ (.head _), rfl⟩
  consistent := by
    intro n r r' left right
    simp only [overtaken, List.mem_cons, reduceCtorEq, Action.complete.injEq, List.not_mem_nil,
      or_false, false_or] at left right
    obtain ⟨rfl, rfl⟩ | ⟨rfl, rfl⟩ | ⟨rfl, rfl⟩ := left
    all_goals
      have same := by simpa using right
      exact same.symm
  few := by decide

theorem overtakenReported : Exchange (new {}) overtaken ∧
    ((new {}).run overtaken).1.status = .loaded ∧
    ((new {}).run overtaken).1.Reports (answers 2 overtaken) :=
  ⟨overtakenExchange, rfl, (statusReportsLatestFetch {} overtaken overtakenExchange).2 _ rfl⟩

end Postboard.Session
