import Kanban.Executor
import Kanban.Proofs.Run.Outcome

/-!
Whole sessions with a board service.  A caller starts executors on it, gives them work and uses the
service itself, in any order; an operation that fails does not keep the next from being carried out.
-/
namespace Kanban

inductive Answer where
  | started (board : Tree)
  | names (names : List String)
  | pipeline (pipeline : Pipeline)
  | position (position : Tree)
  | boards (boards : List Board)
  | columns (columns : List Column)
  | cards (cards : List Card)
  | labels (labels : List Label)
  | card (card : Card)
  | board? (found : Option Board)
  | column? (found : Option Column)
  | label? (found : Option Label)

/-- What can be asked of an executor.  Resuming a task goes on with a pipeline inside the tasks that
are under way. -/
inductive Executor.Work where
  | tasks
  | run (name : Tree)
  | resume (underWay : List String) (pipeline : Pipeline) (name : String)
  | position (place : Place) (column : Tree)

def Executor.carryOut (executor : Executor σ) : Executor.Work → Run σ Answer
  | .tasks => return .names executor.tasks
  | .run name => do return .pipeline (← executor.runNamed name)
  | .resume underWay pipeline name => do
      return .pipeline (← executor.enter underWay (.continuing pipeline) name)
  | .position place column => do
      return .position (position (← executor.landing place column))

inductive Service.Use where
  | call (call : BoardCall)
  | rename (card name : Tree)
  | describe (card description : Tree)
  | findBoard (name : Tree)
  | findColumn (board name : Tree)
  | findLabel (board name : Tree) (caseSensitive : Bool)

namespace Service

def make (service : Service σ) : BoardCall → Run σ Answer
  | .boards => do return .boards (← Run.ask service.boards)
  | .columns board => do return .columns (← Run.ask (service.columns board))
  | .cards board => do return .cards (← Run.ask (service.cards board))
  | .cardsIn column => do return .cards (← Run.ask (service.cardsIn column))
  | .labels board => do return .labels (← Run.ask (service.labels board))
  | .create draft => do return .card (← Run.ask (service.create draft))
  | .move card column position => do return .card (← Run.ask (service.move card column position))

def put (service : Service σ) : Use → Run σ Answer
  | .call call => service.make call
  | .rename card name => do return .card (← Run.ask (service.rename card name))
  | .describe card description => do return .card (← Run.ask (service.describe card description))
  | .findBoard name => do return .board? (← service.findBoard name)
  | .findColumn board name => do return .column? (← service.findColumn board name)
  | .findLabel board name caseSensitive => do
      return .label? (← service.findLabel board name caseSensitive)

end Service

inductive Operation where
  | start (program : Program) (limit : DepthLimit)
  | work (work : Executor.Work)
  | use (use : Service.Use)

/-- Carries out an operation and says which executor is at hand afterwards.  Work is for the one
that was started last, and there has to be one. -/
def Operation.perform (service : Service σ) (atHand : Option (Executor σ)) :
    Operation → Run σ (Answer × Option (Executor σ))
  | .start program limit => do
      let executor ← Executor.start program service limit
      return (.started executor.board, some executor)
  | .work asked =>
      match atHand with
      | some executor => do return (← executor.carryOut asked, atHand)
      | none => Run.misuse .noSuchPart
  | .use asked => do return (← service.put asked, atHand)

/-- Carries out operations in turn, from the executor at hand, and gives how each of them ends. -/
def Service.session (service : Service σ) :
    Option (Executor σ) → List Operation → Run σ (List (Except Failure Answer))
  | _, [] => return []
  | atHand, operation :: rest => do
      match ← Run.outcome (operation.perform service atHand) with
      | .ok (answer, next) => return .ok answer :: (← service.session next rest)
      | .error failure => return .error failure :: (← service.session atHand rest)

end Kanban
