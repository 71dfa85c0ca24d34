import Kanban.Proofs.Draws.Moving
import Kanban.Service

/-!
Runs that do the same with two services.  They are built alike from values, failures, log lines,
draws and calls, and go on alike from every value, so they part only where the services answer a
call differently.  A licence says which effects they may have on the way.
-/
namespace Kanban

/-- The calls that a run makes to a board, each with the kind of its result. -/
inductive Service.Call : Type → Type where
  | boards : Call (List Board)
  | columns (board : Tree) : Call (List Column)
  | cards (board : Tree) : Call (List Card)
  | cardsIn (column : Tree) : Call (List Card)
  | labels (board : Tree) : Call (List Label)
  | create (draft : Draft) : Call Card
  | move (card column position : Tree) : Call Card

namespace Service

def Call.recorded : Call α → BoardCall
  | boards => .boards
  | columns board => .columns board
  | cards board => .cards board
  | cardsIn column => .cardsIn column
  | labels board => .labels board
  | create draft => .create draft
  | move card column position => .move card column position

def answer (service : Service σ) : Call α → σ → Reply σ α
  | .boards => service.boards
  | .columns board => service.columns board
  | .cards board => service.cards board
  | .cardsIn column => service.cardsIn column
  | .labels board => service.labels board
  | .create draft => service.create draft
  | .move card column position => service.move card column position

/-- Whether the service gives no other failures than these. -/
def FailsOnlyWith (service : Service σ) (expected : Failure → Prop) : Prop :=
  ∀ {α : Type} (call : Call α) (state : σ) (failure : Failure),
    (service.answer call state).result = .error failure → expected failure

end Service

/-- What a run may do: the failures it may raise itself, whether it may write to the board and
whether it may draw. -/
structure Licence where
  fails : Failure → Prop
  writes : Prop
  draws : Prop

def Licence.free : Licence where
  fails _ := True
  writes := True
  draws := True

namespace Run

inductive Alike (licence : Licence) (left : Service σ) (right : Service τ) :
    {α : Type} → Run σ α → Run τ α → Prop where
  | pure {α : Type} (value : α) :
      Alike licence left right (Pure.pure value : Run σ α) (Pure.pure value)
  | bind {α β : Type} {first : Run σ α} {other : Run τ α}
      {next : α → Run σ β} {follow : α → Run τ β} :
      Alike licence left right first other →
      (∀ value, Alike licence left right (next value) (follow value)) →
      Alike licence left right (first >>= next) (other >>= follow)
  | fail {α : Type} {failure : Failure} :
      licence.fails failure →
      Alike licence left right (Run.fail failure : Run σ α) (Run.fail failure)
  | emit {events : List Event} :
      (∀ event ∈ events, event.isLog) →
      Alike licence left right (Run.emit events) (Run.emit events)
  | draw {α : Type} {take : Draws → α × Draws} :
      (∀ draws : Draws, draws.MovesOn (take draws).2) → licence.draws →
      Alike licence left right (Run.draw take) (Run.draw take)
  | ask {α : Type} (call : Service.Call α) :
      (call.recorded.isWrite → licence.writes) →
      Alike licence left right (Run.ask (left.answer call)) (Run.ask (right.answer call))

namespace Alike

variable {licence : Licence} {left : Service σ} {right : Service τ}

theorem debug (message : String) :
    Alike licence left right (Run.debug message) (Run.debug message) :=
  .emit (by simp [Event.debug, Event.isLog])

theorem info (message : String) :
    Alike licence left right (Run.info message) (Run.info message) :=
  .emit (by simp [Event.info, Event.isLog])

theorem create (draft : Draft) (writes : licence.writes) :
    Alike licence left right (Run.ask (left.create draft)) (Run.ask (right.create draft)) :=
  .ask (.create draft) fun _ => writes

theorem move (card column position : Tree) (writes : licence.writes) :
    Alike licence left right (Run.ask (left.move card column position))
      (Run.ask (right.move card column position)) :=
  .ask (.move card column position) fun _ => writes

theorem ofExcept (wrap : ε → Failure) (result : Except ε α)
    (raised : ∀ cause, result = .error cause → licence.fails (wrap cause)) :
    Alike licence left right (Run.ofExcept wrap result) (Run.ofExcept wrap result) := by
  cases result with
  | ok value => exact .pure value
  | error cause => exact .fail (raised cause rfl)

theorem failure_expected {expected : Failure → Prop} {run : Run σ α} {other : Run τ α}
    (alike : Alike licence left right run other)
    (licensed : ∀ failure, licence.fails failure → expected failure)
    (service : left.FailsOnlyWith expected) {world later : World σ} {failure : Failure}
    (failed : run world = (.error failure, later)) : expected failure := by
  induction alike generalizing world later with
  | pure value => cases failed
  | bind first next firstHolds nextHolds =>
      rcases bind_error failed with failed | ⟨value, between, _, failed⟩
      · exact firstHolds failed
      · exact nextHolds value failed
  | fail raised =>
      cases failed
      exact licensed _ raised
  | emit logs => cases failed
  | draw moves allowed => cases failed
  | ask call allowed =>
      refine service call world.service failure ?_
      exact congrArg Prod.fst failed

end Alike

end Run

end Kanban
