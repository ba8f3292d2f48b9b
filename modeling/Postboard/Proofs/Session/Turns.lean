import Postboard.Proofs.Pager.Counting
import Postboard.Proofs.Session.Fetches

/-! When the current page changes. It goes back to the first when the filters change, it is turned by hand, and
nothing else moves it; so it is found again from the turns since the filters last changed. How many pages there
are at each turn is taken as it comes, see the paging invariant. -/
namespace Postboard.Session

structure Asks (s : Session) (action : Action) (filters : Filters) : Prop where
  asked : (s.act action).1.filters = filters
  replied : ∃ changed, (s.act action).2 = .changed changed ∧ (changed = true ↔ (s.act action).1.filters ≠ s.filters)
  moved : (s.act action).2 = .changed true →
    (s.act action).1 = { s with filters, pager := { s.pager with current := 1 } }
  stayed : (s.act action).2 = .changed false → (s.act action).1 = s

def Moves (s : Session) (action : Action) : Prop :=
  match action with
  | .setFilters filters => s.Asks action filters
  | .setInputs inputs => s.Asks action { s.filters with inputs }
  | .setSearch term category => s.Asks action { s.filters with inputs := [⟨term, category⟩] }
  | .setSentiment sentiment => s.Asks action { s.filters with sentiment }
  | .setDates lower upper => s.Asks action { s.filters with dates := ⟨lower, upper⟩ }
  | .clearFilters => s.act action = ({ s with filters := {}, pager := { s.pager with current := 1 } }, .done)
  | .nextPage | .previousPage => ∃ current, s.act action = ({ s with pager := { s.pager with current } }, .done)
  | .issue | .complete .. | .refresh _ =>
    (s.act action).1.filters = s.filters ∧ (s.act action).1.pager.current = s.pager.current

theorem asksFilters {s : Session} {action : Action} {filters : Filters}
    (step : s.act action = changedReply (s.setFilters filters)) : s.Asks action filters := by
  by_cases same : filters = s.filters
  · have stays : s.act action = (s, .changed false) := by rw [step, setFilters, if_pos same, changedReply]
    constructor
    · rw [stays, same]
    · exact ⟨false, by rw [stays], by simp [stays]⟩
    · simp [stays]
    · simp [stays]
  · have moves : s.act action = ({ s with filters, pager := s.pager.reset }, .changed true) := by
      rw [step, setFilters, if_neg same, changedReply]
    constructor
    · rw [moves]
    · exact ⟨true, by rw [moves], by simp [moves, same]⟩
    · rw [moves]
      exact fun _ => rfl
    · simp [moves]

theorem completeKeepsPage (s : Session) (n : UInt64) (r : Response) :
    (s.complete n r).session.filters = s.filters ∧ (s.complete n r).session.pager.current = s.pager.current := by
  obtain ⟨_, same⟩ | ⟨page, _, _, same⟩ | ⟨e, _, _, same⟩ := s.completeCases n r
  · rw [same]
    exact ⟨rfl, rfl⟩
  · rw [same]
    exact ⟨rfl, rfl⟩
  · rw [same]
    exact ⟨rfl, rfl⟩

theorem refreshKeepsPage (s : Session) (source : Source) :
    (s.refresh source).session.filters = s.filters ∧
    (s.refresh source).session.pager.current = s.pager.current := by
  rw [refreshSession]
  exact completeKeepsPage s.issue.1 _ _

theorem actMoves (s : Session) (action : Action) : s.Moves action := by
  cases action with
  | setFilters filters => exact asksFilters rfl
  | setInputs inputs => exact asksFilters rfl
  | setSearch term category => exact asksFilters rfl
  | setSentiment sentiment => exact asksFilters rfl
  | setDates lower upper => exact asksFilters rfl
  | clearFilters => exact rfl
  | nextPage => exact ⟨s.pager.next.current, rfl⟩
  | previousPage => exact ⟨s.pager.previous.current, rfl⟩
  | issue => exact ⟨rfl, rfl⟩
  | complete n r => exact completeKeepsPage s n r
  | refresh source => exact refreshKeepsPage s source

inductive Turn where
  | next (pages : Nat)
  | previous (pages : Nat)

/- After the last number that 64 bits hold comes zero. -/
def Turn.leads (page : Nat) : Turn → Nat
  | next pages => min ((page + 1) % UInt64.size) (max pages 1)
  | previous pages => max (min (page - 1) pages) 1

def turnOf (s : Session) : Action → List Turn
  | .nextPage => [.next s.pager.pages.toNat]
  | .previousPage => [.previous s.pager.pages.toNat]
  | _ => []

def resets (s : Session) : Action → Bool
  | .clearFilters => true
  | action => (s.act action).2 = .changed true

/-- The turns since the last reset; a run without one goes on with the turns made before it. -/
def turnsSince (s : Session) (turns : List Turn) : List Action → List Turn
  | [] => turns
  | action :: rest =>
    turnsSince (s.act action).1 (if s.resets action then [] else turns ++ s.turnOf action) rest

theorem nextLeads (s : Session) :
    s.nextPage.pager.current.toNat = Turn.leads s.pager.current.toNat (.next s.pager.pages.toNat) := by
  rw [nextPage, Pager.next, Pager.toNatMin, Pager.toNatMax, UInt64.toNat_add]
  rfl

theorem previousLeads (s : Session) :
    s.previousPage.pager.current.toNat = Turn.leads s.pager.current.toNat (.previous s.pager.pages.toNat) :=
  Pager.previousCurrent s.pager

structure PageStep (s : Session) (action : Action) : Prop where
  first : s.resets action = true → (s.act action).1.pager.current = 1
  turned : s.resets action = false →
    (s.act action).1.pager.current.toNat = (s.turnOf action).foldl Turn.leads s.pager.current.toNat

theorem asksPageStep {s : Session} {action : Action} {filters : Filters} (asks : s.Asks action filters)
    (resets : s.resets action = decide ((s.act action).2 = .changed true)) (still : s.turnOf action = []) :
    s.PageStep action := by
  obtain ⟨changed, reply, -⟩ := asks.replied
  constructor
  · intro reset
    rw [asks.moved (of_decide_eq_true (resets ▸ reset))]
  · intro kept
    rw [still]
    cases changed with
    | false => rw [asks.stayed reply, List.foldl_nil]
    | true => simp [resets, reply] at kept

theorem pageStep (s : Session) (action : Action) : s.PageStep action := by
  have moves := s.actMoves action
  cases action with
  | setFilters filters => exact asksPageStep moves rfl rfl
  | setInputs inputs => exact asksPageStep moves rfl rfl
  | setSearch term category => exact asksPageStep moves rfl rfl
  | setSentiment sentiment => exact asksPageStep moves rfl rfl
  | setDates lower upper => exact asksPageStep moves rfl rfl
  | clearFilters => exact ⟨fun _ => rfl, nofun⟩
  | nextPage => exact ⟨nofun, fun _ => nextLeads s⟩
  | previousPage => exact ⟨nofun, fun _ => previousLeads s⟩
  | issue => exact ⟨nofun, fun _ => rfl⟩
  | complete n r => exact ⟨nofun, fun _ => congrArg UInt64.toNat moves.2⟩
  | refresh source => exact ⟨nofun, fun _ => congrArg UInt64.toNat moves.2⟩

theorem actTurned {s : Session} {turns : List Turn} (stands : s.pager.current.toNat = turns.foldl Turn.leads 1)
    (action : Action) :
    (s.act action).1.pager.current.toNat =
      (if s.resets action then [] else turns ++ s.turnOf action).foldl Turn.leads 1 := by
  have step := s.pageStep action
  cases reset : s.resets action with
  | true =>
    rw [step.first reset]
    rfl
  | false =>
    rw [step.turned reset, stands, ← List.foldl_append]
    rfl

theorem runTurned {s : Session} {turns : List Turn} (stands : s.pager.current.toNat = turns.foldl Turn.leads 1)
    (actions : List Action) :
    (s.run actions).1.pager.current.toNat = (s.turnsSince turns actions).foldl Turn.leads 1 := by
  induction actions generalizing s turns with
  | nil => exact stands
  | cons action rest ih => exact ih (actTurned stands action)

theorem pageFollowsTurns (settings : Settings) (actions : List Action) :
    let s := ((new settings).run actions).1
    (∀ action, s.Moves action) ∧
    s.pager.current.toNat = ((new settings).turnsSince [] actions).foldl Turn.leads 1 :=
  ⟨fun action => actMoves _ action, runTurned rfl actions⟩

end Postboard.Session
