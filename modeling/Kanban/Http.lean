import Kanban.Event
import Kanban.Json

namespace Kanban

/-- `data` is what the text says as JSON, or why it says nothing. -/
structure HttpResponse where
  status : Int := 200
  text : String
  data : Except Json.Flaw Tree := Json.read text

inductive Exchange where
  | answered (response : HttpResponse)
  | refused (reason : String)

/-- Only the statuses for a fault of the sender or of the service are refusals. -/
def HttpResponse.isFine (response : HttpResponse) : Bool :=
  !(400 ≤ response.status && response.status < 600)

structure Transport (σ : Type) where
  send : HttpRequest → σ → Exchange × σ

namespace Transport

/-- Gives the exchanges of a list one after the other, whatever is sent. -/
def scripted : Transport (List Exchange) where
  send _ script :=
    match script with
    | [] => (.refused "no more responses", [])
    | exchange :: rest => (exchange, rest)

end Transport

end Kanban
