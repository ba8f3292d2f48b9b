import Mathlib.Data.List.Induction
import Postboard.Session.Action

/-! The fetches that a run sends, and what each kind of action leaves alone. Sequence numbers are
shown to rise by one with every fetch while 64 bits can count them; a longer run is not covered. -/
namespace Postboard.Session

def Action.isEdit : Action → Bool
  | .issue | .complete .. | .refresh _ => false
  | _ => true

theorem Action.kinds (action : Action) :
    action.isEdit ∨ action = .issue ∨ (∃ n r, action = .complete n r) ∨ ∃ source, action = .refresh source := by
  cases action with
  | issue => exact .inr (.inl rfl)
  | complete n r => exact .inr (.inr (.inl ⟨n, r, rfl⟩))
  | refresh source => exact .inr (.inr (.inr ⟨source, rfl⟩))
  | _ => exact .inl rfl

def fetchOf (s : Session) : Action → Option Fetch
  | .issue | .refresh _ => some s.issue.2
  | _ => none

def sent (s : Session) : List Action → List Fetch
  | [] => []
  | action :: rest => (s.fetchOf action).toList ++ sent (s.act action).1 rest

structure Keeps (s t : Session) : Prop where
  latest : t.latest = s.latest
  status : t.status = s.status
  posts : t.posts = s.posts
  total : t.total = s.total
  pages : t.pager.pages = s.pager.pages
  perPage : t.pager.perPage = s.pager.perPage

theorem setFiltersCases (s : Session) (filters : Filters) :
    (s.setFilters filters).1 = s ∨ (s.setFilters filters).1 = { s with filters, pager := s.pager.reset } := by
  by_cases same : filters = s.filters
  · exact .inl (by rw [setFilters, if_pos same])
  · exact .inr (by rw [setFilters, if_neg same])

theorem editCases (s : Session) {action : Action} (edit : action.isEdit) :
    (s.act action).1 = s ∨ (∃ filters, (s.act action).1 = { s with filters, pager := s.pager.reset }) ∨
    action = .nextPage ∨ action = .previousPage := by
  have change {t : Session} {filters : Filters} (step : t = (s.setFilters filters).1) :
      t = s ∨ (∃ filters, t = { s with filters, pager := s.pager.reset }) ∨
      action = .nextPage ∨ action = .previousPage := by
    rw [step]
    exact (setFiltersCases s filters).imp_right fun asked => .inl ⟨filters, asked⟩
  cases action with
  | setFilters filters => exact change rfl
  | setInputs inputs => exact change rfl
  | setSearch term category => exact change rfl
  | setSentiment sentiment => exact change rfl
  | setDates lower upper => exact change rfl
  | clearFilters => exact .inr (.inl ⟨{}, rfl⟩)
  | nextPage => exact .inr (.inr (.inl rfl))
  | previousPage => exact .inr (.inr (.inr rfl))
  | issue => simp [Action.isEdit] at edit
  | complete sequence response => simp [Action.isEdit] at edit
  | refresh source => simp [Action.isEdit] at edit

theorem resetKeeps (s : Session) (filters : Filters) : Keeps s { s with filters, pager := s.pager.reset } :=
  ⟨rfl, rfl, rfl, rfl, rfl, rfl⟩

theorem setFiltersKeeps (s : Session) (filters : Filters) : Keeps s (s.setFilters filters).1 := by
  obtain same | same := setFiltersCases s filters
  · rw [same]
    exact ⟨rfl, rfl, rfl, rfl, rfl, rfl⟩
  · rw [same]
    exact resetKeeps s filters

theorem editKeeps (s : Session) {action : Action} (edit : action.isEdit) : Keeps s (s.act action).1 := by
  obtain same | ⟨filters, same⟩ | rfl | rfl := editCases s edit
  · rw [same]
    exact ⟨rfl, rfl, rfl, rfl, rfl, rfl⟩
  · rw [same]
    exact resetKeeps s filters
  · exact ⟨rfl, rfl, rfl, rfl, rfl, rfl⟩
  · exact ⟨rfl, rfl, rfl, rfl, rfl, rfl⟩

theorem editSendsNothing (s : Session) {action : Action} (edit : action.isEdit) : s.fetchOf action = none := by
  cases action <;> simp_all [Action.isEdit, fetchOf]

def showing (s : Session) (page : Page) : Session :=
  { s with
    pager := s.pager.withTotal page.total, posts := page.posts, total := page.total
    status := if page.posts.isEmpty then .empty else .loaded }

theorem completeLate {s : Session} {n : UInt64} (late : n ≠ s.latest) (r : Response) :
    s.complete n r = ⟨s, .stale, [.lateResponse n s.latest]⟩ := by
  simp [complete, late]

theorem completeOk (s : Session) (page : Page) :
    s.complete s.latest (.ok page) = ⟨s.showing page, .applied, []⟩ := by
  simp [complete, showing]

theorem completeError (s : Session) (e : StoreError) :
    s.complete s.latest (.error e) = ⟨{ s with status := .failed e.message }, .failed, [.fetchFailed e]⟩ := by
  simp [complete]

theorem completeCases (s : Session) (n : UInt64) (r : Response) :
    (n ≠ s.latest ∧ s.complete n r = ⟨s, .stale, [.lateResponse n s.latest]⟩) ∨
    (∃ page, n = s.latest ∧ r = .ok page ∧ s.complete n r = ⟨s.showing page, .applied, []⟩) ∨
    ∃ e, n = s.latest ∧ r = .error e ∧
      s.complete n r = ⟨{ s with status := .failed e.message }, .failed, [.fetchFailed e]⟩ := by
  rcases Decidable.em (n = s.latest) with rfl | late
  · cases r with
    | ok page => exact .inr (.inl ⟨page, rfl, rfl, completeOk s page⟩)
    | error e => exact .inr (.inr ⟨e, rfl, rfl, completeError s e⟩)
  · exact .inl ⟨late, completeLate late r⟩

theorem completeKeepsLatest (s : Session) (n : UInt64) (r : Response) :
    (s.complete n r).session.latest = s.latest := by
  obtain ⟨_, same⟩ | ⟨page, _, _, same⟩ | ⟨e, _, _, same⟩ := s.completeCases n r
  · exact congrArg (·.session.latest) same
  · exact congrArg (·.session.latest) same
  · exact congrArg (·.session.latest) same

theorem completeKeepsPerPage (s : Session) (n : UInt64) (r : Response) :
    (s.complete n r).session.pager.perPage = s.pager.perPage := by
  obtain ⟨_, same⟩ | ⟨page, _, _, same⟩ | ⟨e, _, _, same⟩ := s.completeCases n r
  · exact congrArg (·.session.pager.perPage) same
  · exact congrArg (·.session.pager.perPage) same
  · exact congrArg (·.session.pager.perPage) same

/- A refresh is an issue and the response to it; only the log has a line more. -/
theorem refreshSession (s : Session) (source : Source) :
    (s.refresh source).session = (s.issue.1.complete s.issue.1.latest (source s.plan)).session := by
  simp only [refresh]
  split <;> rfl

theorem refreshOutcome (s : Session) (source : Source) :
    (s.refresh source).outcome = (s.issue.1.complete s.issue.1.latest (source s.plan)).outcome := by
  simp only [refresh]
  split <;> rfl

theorem latestAfterAction (s : Session) (action : Action) :
    (s.act action).1.latest = if (s.fetchOf action).isSome then s.latest + 1 else s.latest := by
  obtain edit | rfl | ⟨n, r, rfl⟩ | ⟨source, rfl⟩ := action.kinds
  · rw [editSendsNothing s edit]
    exact (editKeeps s edit).latest
  · rfl
  · exact completeKeepsLatest s n r
  · show (s.refresh source).session.latest = s.latest + 1
    rw [refreshSession, completeKeepsLatest]
    rfl

theorem actKeepsPerPage (s : Session) (action : Action) : (s.act action).1.pager.perPage = s.pager.perPage := by
  obtain edit | rfl | ⟨n, r, rfl⟩ | ⟨source, rfl⟩ := action.kinds
  · exact (editKeeps s edit).perPage
  · rfl
  · exact completeKeepsPerPage s n r
  · show (s.refresh source).session.pager.perPage = s.pager.perPage
    rw [refreshSession, completeKeepsPerPage]
    rfl

theorem fetchOfSequence {s : Session} {action : Action} {f : Fetch} (h : s.fetchOf action = some f) :
    f.sequence = s.latest + 1 := by
  cases action with
  | issue => cases h; rfl
  | refresh source => cases h; rfl
  | _ => simp [fetchOf] at h

theorem runSnoc (s : Session) (actions : List Action) (action : Action) :
    s.run (actions ++ [action]) =
      (((s.run actions).1.act action).1, (s.run actions).2 ++ [((s.run actions).1.act action).2]) := by
  rw [runAppend]
  rfl

theorem sentAppend (s : Session) (before after : List Action) :
    s.sent (before ++ after) = s.sent before ++ (s.run before).1.sent after := by
  induction before generalizing s with
  | nil => rfl
  | cons action rest ih => simp [sent, run, ih]

theorem sentSnoc (s : Session) (actions : List Action) (action : Action) :
    s.sent (actions ++ [action]) = s.sent actions ++ ((s.run actions).1.fetchOf action).toList := by
  rw [sentAppend]
  simp [sent]

theorem runKeepsPerPage (s : Session) (actions : List Action) :
    (s.run actions).1.pager.perPage = s.pager.perPage := by
  induction actions generalizing s with
  | nil => rfl
  | cons action rest ih => exact (ih (s.act action).1).trans (actKeepsPerPage s action)

theorem latestAfterRun (s : Session) (actions : List Action)
    (few : s.latest.toNat + (s.sent actions).length < UInt64.size) :
    (s.run actions).1.latest.toNat = s.latest.toNat + (s.sent actions).length := by
  induction actions using List.reverseRecOn with
  | nil => simp [run, sent]
  | append_singleton actions action ih =>
    rw [sentSnoc, List.length_append] at few ⊢
    have before := ih (by omega)
    rw [runSnoc, latestAfterAction]
    cases sends : (s.run actions).1.fetchOf action with
    | none => simpa using before
    | some f =>
      simp only [sends, Option.toList_some, List.length_singleton, UInt64.size] at few ⊢
      simp only [Option.isSome_some, ↓reduceIte, UInt64.toNat_add, UInt64.toNat_one]
      omega

theorem sentNumbers (s : Session) (actions : List Action)
    (few : s.latest.toNat + (s.sent actions).length < UInt64.size) :
    (s.sent actions).map (·.sequence.toNat) = List.range' (s.latest.toNat + 1) (s.sent actions).length := by
  induction actions using List.reverseRecOn with
  | nil => rfl
  | append_singleton actions action ih =>
    rw [sentSnoc, List.length_append] at few
    rw [sentSnoc]
    cases sends : (s.run actions).1.fetchOf action with
    | none => simpa using ih (by omega)
    | some f =>
      simp only [sends, Option.toList_some, List.length_singleton, UInt64.size] at few
      have latest := latestAfterRun s actions (by simp only [UInt64.size]; omega)
      have number : f.sequence.toNat = s.latest.toNat + 1 + (s.sent actions).length := by
        rw [fetchOfSequence sends, UInt64.toNat_add, UInt64.toNat_one]
        omega
      rw [Option.toList_some, List.map_append, ih (by simp only [UInt64.size]; omega), List.length_append,
        List.length_singleton, List.range'_concat]
      simp [number]

theorem sentAscending (s : Session) (actions : List Action)
    (few : s.latest.toNat + (s.sent actions).length < UInt64.size) :
    ((s.sent actions).map (·.sequence)).Pairwise (· < ·) := by
  have ascending : ((s.sent actions).map (·.sequence.toNat)).Pairwise (· < ·) := by
    rw [sentNumbers s actions few]
    exact List.pairwise_lt_range'
  rw [List.pairwise_map] at ascending ⊢
  exact ascending.imp fun h => UInt64.lt_iff_toNat_lt.2 h

theorem sentBound {s : Session} {actions : List Action} {f : Fetch}
    (few : s.latest.toNat + (s.sent actions).length < UInt64.size) (member : f ∈ s.sent actions) :
    f.sequence.toNat ≤ (s.run actions).1.latest.toNat := by
  have numbered : f.sequence.toNat ∈ (s.sent actions).map (·.sequence.toNat) := List.mem_map_of_mem member
  rw [sentNumbers s actions few, List.mem_range'_1] at numbered
  rw [latestAfterRun s actions few]
  omega

theorem latestIsLastSent (s : Session) (actions : List Action) :
    (s.run actions).1.latest = ((s.sent actions).map (·.sequence)).getLast?.getD s.latest := by
  induction actions using List.reverseRecOn with
  | nil => rfl
  | append_singleton actions action ih =>
    rw [runSnoc, sentSnoc, latestAfterAction]
    cases sends : (s.run actions).1.fetchOf action with
    | none => simpa using ih
    | some f => simp [fetchOfSequence sends]

theorem sentLast {s : Session} {actions : List Action} {f : Fetch}
    (last : (s.sent actions).getLast? = some f) : f.sequence = (s.run actions).1.latest := by
  rw [latestIsLastSent, List.getLast?_map, last]
  rfl

end Postboard.Session
