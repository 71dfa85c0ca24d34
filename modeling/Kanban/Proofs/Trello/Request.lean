import Kanban.Proofs.Run.Alike
import Kanban.Trello

namespace Kanban

namespace Trello

structure Endpoint where
  method : String
  path : String
  parameters : List (String × Tree) := []

def endpoint : BoardCall → Endpoint
  | .boards => { method := "GET", path := "/1/members/me/boards" }
  | .columns board => { method := "GET", path := s!"/1/boards/{board.shown}/lists" }
  | .cards board => { method := "GET", path := s!"/1/boards/{board.shown}/cards" }
  | .cardsIn column => { method := "GET", path := s!"/1/lists/{column.shown}/cards" }
  | .labels board => { method := "GET", path := s!"/1/boards/{board.shown}/labels" }
  | .create draft =>
      { method := "POST", path := "/1/cards", parameters := draftParameters draft }
  | .move card column position =>
      { method := "PUT", path := cardPath card
        parameters := [("idList", column), ("pos", position)] }

def requestOf (client : Trello) (call : BoardCall) : HttpRequest :=
  client.request (endpoint call).method (endpoint call).path (endpoint call).parameters

def notes : BoardCall → List Event
  | .create draft => [.debug (draftNote draft)]
  | .move card column position =>
      [.debug s!"Moving card {card.shown} to list {column.shown} at {position.shown}"]
  | _ => []

def reading : Service.Call α → Tree → Except Misuse α
  | .boards => readBoards
  | .columns _ => readAll Column.ofTree
  | .cards _ | .cardsIn _ => readAll Card.ofTree
  | .labels _ => readAll Label.ofTree
  | .create _ | .move .. => Card.ofTree

def received (call : Service.Call α) (exchange : Exchange) : Except Failure α :=
  match outcome (endpoint call.recorded).method (endpoint call.recorded).path exchange with
  | .ok data => (reading call data).mapError Failure.misuse
  | .error failure => .error failure

theorem answer_eq (client : Trello) (transport : Transport σ) (call : Service.Call α)
    (state : σ) :
    (client.service transport).answer call state =
      ⟨received call (transport.send (client.requestOf call.recorded) state).1,
        (transport.send (client.requestOf call.recorded) state).2,
        notes call.recorded ++ [.request (client.requestOf call.recorded)]⟩ := by
  cases call <;> rfl

theorem notes_are_logs (call : BoardCall) : ∀ event ∈ notes call, event.isLog := by
  cases call <;> simp [notes, Event.debug, Event.isLog]

end Trello

end Kanban
