import Postboard.Proofs.Session.Fetches

/-! What late and failed responses cannot do. A response to an overtaken fetch might as well not have
come in, and one that reports a failure leaves the page and the paging as they were. Which page a
fetch should have brought is not a question here; see the store. -/
namespace Postboard.Session

def Reply.outcome : Reply → Option Outcome
  | .delivered outcome _ => some outcome
  | _ => none

def responseOf (s : Session) : Action → Option Response
  | .complete _ response => some response
  | .refresh source => some (source s.plan)
  | _ => none

def appliedPage (s : Session) (action : Action) : Option Page :=
  if (s.act action).2.outcome = some .applied then (s.responseOf action).bind Except.toOption else none

def applied (s : Session) : List Action → List Page
  | [] => []
  | action :: rest => (s.appliedPage action).toList ++ applied (s.act action).1 rest

def Shows (s : Session) : Option Page → Prop
  | none => s.posts = [] ∧ s.total = 0 ∧ s.pager.pages = 1
  | some page => s.posts = page.posts ∧ s.total = page.total ∧
      s.pager.pages = Pager.pagesFor s.pager.perPage page.total

theorem runSplit (s : Session) (before : List Action) (action : Action) (after : List Action) :
    s.run (before ++ action :: after) =
      ((((s.run before).1.act action).1.run after).1,
        (s.run before).2 ++ ((s.run before).1.act action).2 :: (((s.run before).1.act action).1.run after).2) := by
  rw [runAppend]
  rfl

theorem actLate {s : Session} {n : UInt64} (late : n ≠ s.latest) (r : Response) :
    s.act (.complete n r) = (s, .delivered .stale [.lateResponse n s.latest]) := by
  simp only [act, completeLate late, deliveredReply]

/- All that the rest of the run can see of a late response is its own reply. -/
theorem runLate {s : Session} {before : List Action} {n : UInt64} (late : n ≠ (s.run before).1.latest)
    (r : Response) (after : List Action) :
    s.run (before ++ .complete n r :: after) =
      ((s.run (before ++ after)).1,
        (s.run before).2 ++ .delivered .stale [.lateResponse n (s.run before).1.latest] ::
          ((s.run before).1.run after).2) := by
  rw [runSplit, actLate late, runAppend]

theorem overtakenIsLate {s : Session} {before : List Action} {f : Fetch} {n : UInt64}
    (few : s.latest.toNat + (s.sent before).length < UInt64.size)
    (sent : f ∈ s.sent before) (older : n < f.sequence) : n ≠ (s.run before).1.latest := by
  have bound := sentBound few sent
  have below := UInt64.lt_iff_toNat_lt.1 older
  intro current
  rw [current] at below
  omega

theorem lateResponseIdle {s : Session} {before : List Action} {n : UInt64} {r : Response} {after : List Action}
    (late : n ≠ (s.run before).1.latest) :
    (∃ notices, (s.run (before ++ .complete n r :: after)).2[before.length]? = some (.delivered .stale notices)) ∧
    (s.run (before ++ after)).1 = (s.run (before ++ .complete n r :: after)).1 ∧
    (s.run (before ++ after)).2 = (s.run (before ++ .complete n r :: after)).2.eraseIdx before.length ∧
    ∀ r', s.run (before ++ .complete n r' :: after) = s.run (before ++ .complete n r :: after) := by
  have place := runLength s before
  refine ⟨⟨[.lateResponse n (s.run before).1.latest], ?_⟩, ?_, ?_, ?_⟩
  · rw [runLate late, ← place, List.getElem?_append_right (Nat.le_refl _)]
    simp
  · rw [runLate late]
  · rw [runLate late, runAppend, ← place, List.eraseIdx_append_of_length_le (Nat.le_refl _)]
    simp
  · intro r'
    rw [runLate late, runLate late]

theorem outcomeApplied {s : Session} {n : UInt64} {r : Response} (h : (s.complete n r).outcome = .applied) :
    ∃ page, r = .ok page ∧ (s.complete n r).session = s.showing page := by
  obtain ⟨_, same⟩ | ⟨page, _, ok, same⟩ | ⟨e, _, _, same⟩ := s.completeCases n r
  · simp [same] at h
  · exact ⟨page, ok, congrArg Delivery.session same⟩
  · simp [same] at h

theorem outcomeNotApplied {s : Session} {n : UInt64} {r : Response} (h : (s.complete n r).outcome ≠ .applied) :
    ∃ status, (s.complete n r).session = { s with status } := by
  obtain ⟨_, same⟩ | ⟨page, _, _, same⟩ | ⟨e, _, _, same⟩ := s.completeCases n r
  · exact ⟨s.status, congrArg Delivery.session same⟩
  · simp [same] at h
  · exact ⟨.failed e.message, congrArg Delivery.session same⟩

theorem outcomeFailed {s : Session} {n : UInt64} {r : Response} (h : (s.complete n r).outcome = .failed) :
    ∃ message, (s.complete n r).session = { s with status := .failed message } := by
  obtain ⟨_, same⟩ | ⟨page, _, _, same⟩ | ⟨e, _, _, same⟩ := s.completeCases n r
  · simp [same] at h
  · simp [same] at h
  · exact ⟨e.message, congrArg Delivery.session same⟩

theorem failureChangesStatusOnly {s : Session} {action : Action}
    (failed : (s.act action).2.outcome = some .failed) :
    ∃ message, (s.act action).1 =
      { s with
        latest := if (s.fetchOf action).isSome then s.latest + 1 else s.latest
        status := .failed message } := by
  cases action with
  | complete n r => exact outcomeFailed (Option.some.inj failed)
  | refresh source =>
    have outcome : (s.refresh source).outcome = .failed := Option.some.inj failed
    rw [refreshOutcome] at outcome
    obtain ⟨message, same⟩ := outcomeFailed outcome
    refine ⟨message, ?_⟩
    show (s.refresh source).session = _
    rw [refreshSession, same]
    rfl
  | _ => simp [act, Reply.outcome, changedReply] at failed

theorem completeShows {s : Session} {page : Option Page} (shows : s.Shows page) (n : UInt64) (r : Response) :
    (s.complete n r).session.Shows
      ((if (s.complete n r).outcome = .applied then r.toOption else none).or page) := by
  by_cases counts : (s.complete n r).outcome = .applied
  · obtain ⟨page, rfl, same⟩ := outcomeApplied counts
    rw [same, if_pos counts]
    exact ⟨rfl, rfl, rfl⟩
  · obtain ⟨status, same⟩ := outcomeNotApplied counts
    rw [same, if_neg counts]
    cases page <;> exact shows

theorem actShows {s : Session} {page : Option Page} (shows : s.Shows page) (action : Action) :
    (s.act action).1.Shows ((s.appliedPage action).or page) := by
  have issued : s.issue.1.Shows page := by cases page <;> exact shows
  obtain edit | rfl | ⟨n, r, rfl⟩ | ⟨source, rfl⟩ := action.kinds
  · have keeps := editKeeps s edit
    have nothing : s.appliedPage action = none := by
      cases action <;> simp_all [Action.isEdit, appliedPage, responseOf]
    rw [nothing]
    cases page <;> simpa only [Shows, Option.or, keeps.posts, keeps.total, keeps.pages, keeps.perPage] using shows
  · exact issued
  · have step := completeShows shows n r
    simpa only [appliedPage, act, deliveredReply, Reply.outcome, Option.some.injEq, responseOf,
      Option.bind_some] using step
  · have step := completeShows issued s.issue.1.latest (source s.plan)
    rw [← refreshSession, ← refreshOutcome] at step
    simpa only [appliedPage, act, deliveredReply, Reply.outcome, Option.some.injEq, responseOf,
      Option.bind_some] using step

theorem appliedAppend (s : Session) (before after : List Action) :
    s.applied (before ++ after) = s.applied before ++ (s.run before).1.applied after := by
  induction before generalizing s with
  | nil => rfl
  | cons action rest ih => simp [applied, run, ih]

theorem runShows {s : Session} (start : s.Shows none) (actions : List Action) :
    (s.run actions).1.Shows (s.applied actions).getLast? := by
  induction actions using List.reverseRecOn with
  | nil => exact start
  | append_singleton actions action ih =>
    have step := actShows ih action
    rw [runSnoc, appliedAppend, List.getLast?_append]
    cases last : (s.run actions).1.appliedPage action with
    | none => simpa [applied, last] using step
    | some page => simpa [applied, last] using step

theorem lateAndFailedResponsesIdle (settings : Settings) (actions : List Action)
    (few : ((new settings).sent actions).length < UInt64.size) :
    (∀ before n r after, actions = before ++ .complete n r :: after →
      ∀ f ∈ (new settings).sent before, n < f.sequence →
      (∃ notices, ((new settings).run actions).2[before.length]? = some (.delivered .stale notices)) ∧
      ((new settings).run (before ++ after)).1 = ((new settings).run actions).1 ∧
      ((new settings).run (before ++ after)).2 = ((new settings).run actions).2.eraseIdx before.length ∧
      ∀ r', (new settings).run (before ++ .complete n r' :: after) = (new settings).run actions) ∧
    (∀ before after, actions = before ++ after →
      ((new settings).run before).1.pager.perPage = max settings.perPage 1 ∧
      ((new settings).run before).1.Shows ((new settings).applied before).getLast?) ∧
    ∀ before action after, actions = before ++ action :: after →
      let s := ((new settings).run before).1
      (s.act action).2.outcome = some .failed →
      ∃ message, (s.act action).1 =
        { s with
          latest := if (s.fetchOf action).isSome then s.latest + 1 else s.latest
          status := .failed message } := by
  refine ⟨?_, fun before _ _ => ⟨runKeepsPerPage _ before, runShows ⟨rfl, rfl, rfl⟩ before⟩,
    fun _ _ _ _ => failureChangesStatusOnly⟩
  intro before n r after split f sent older
  subst split
  rw [sentAppend, List.length_append] at few
  apply lateResponseIdle
  apply overtakenIsLate _ sent older
  exact Nat.lt_of_le_of_lt (by simp [new]) few

def answeredAgain : List Action := [
  .issue, .complete 1 (.ok ⟨[], 41⟩), .nextPage, .issue, .complete 1 (.ok ⟨[], 7⟩),
  .complete 2 (.error (.unavailable "timeout"))]

theorem answeredAgainIdle : ((new {}).sent answeredAgain).length < UInt64.size ∧
    ((new {}).run (answeredAgain.eraseIdx 4)).1 = ((new {}).run answeredAgain).1 ∧
    ((new {}).run answeredAgain).1.Shows (some ⟨[], 41⟩) := by
  have few : ((new {}).sent answeredAgain).length < UInt64.size := by decide
  have idle := lateAndFailedResponsesIdle {} answeredAgain few
  have late := idle.1 (answeredAgain.take 4) 1 (.ok ⟨[], 7⟩) (answeredAgain.drop 5) rfl _ (.tail _ (.head _))
    (by decide)
  exact ⟨few, late.2.1, (idle.2.1 answeredAgain [] rfl).2⟩

end Postboard.Session
