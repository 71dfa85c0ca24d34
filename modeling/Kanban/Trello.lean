import Kanban.Http
import Kanban.Service

namespace Kanban

/-- `base` is the address in front of the path of every request. -/
structure Trello where
  key : Tree
  token : Tree
  base : String
  timeout : Tree

namespace Trello

def defaultBase : String :=
  "https://api.trello.com"

def defaultTimeout : Tree :=
  .int 10

/-- Slashes at the end of the address do not count. -/
def withoutSlashes (address : String) : String :=
  String.ofList (address.toList.reverse.dropWhile (· == '/')).reverse

def connect (key token base timeout : Tree) : Except Misuse Trello :=
  match base with
  | .text address => .ok { key, token, base := withoutSlashes address, timeout }
  | _ => .error .noSuchPart

def headers : List (String × String) :=
  [("Accept", "application/json")]

def isNull : Tree → Bool
  | .null => true
  | _ => false

/-- The two credentials come first; of the others those that are null are left out. -/
def request (client : Trello) (method path : String) (parameters : List (String × Tree)) :
    HttpRequest :=
  { method
    url := client.base ++ path
    parameters := [("key", client.key), ("token", client.token)] ++
      parameters.filter fun parameter => !isNull parameter.2
    headers
    timeout := client.timeout }

def shownLength : Nat :=
  200

/-- The data that an exchange brings; what lies too deep to be read is not foreseen. -/
def outcome (method path : String) : Exchange → Except Failure Tree
  | .refused reason => .error (.ofRun (.unanswered method path reason))
  | .answered response =>
      if response.isFine then
        match response.data with
        | .ok value => .ok value
        | .error .malformed => .error (.ofRun (.unreadable method path))
        | .error .tooDeep => .error (.misuse .endless)
      else
        let shown := String.ofList (response.text.toList.take shownLength)
        .error (.ofRun (.refused method path response.status shown))

def send (client : Trello) (transport : Transport σ) (method path : String)
    (parameters : List (String × Tree)) (read : Tree → Except Misuse α) (state : σ) :
    Reply σ α :=
  let request := client.request method path parameters
  let (exchange, later) := transport.send request state
  let result :=
    match outcome method path exchange with
    | .ok value => (read value).mapError Failure.misuse
    | .error cause => .error cause
  ⟨result, later, [.request request]⟩

def readAll (read : Tree → Except Misuse α) (value : Tree) : Except Misuse (List α) :=
  match value.elements? with
  | some elements => Entity.all read elements
  | none => .error .wrongKind

/-- Closed boards are left out. -/
def readBoards (value : Tree) : Except Misuse (List Board) := do
  return (← readAll Board.ofTree value).filter (!·.closed)

def announced (message : String) (reply : Reply σ α) : Reply σ α :=
  { reply with events := .debug message :: reply.events }

def draftParameters (draft : Draft) : List (String × Tree) :=
  let optional (name : String) (value : Tree) : List (String × Tree) :=
    if value.isGiven then [(name, value)] else []
  [("idList", draft.column), ("name", draft.name), ("pos", draft.position)] ++
    optional "desc" draft.description ++ optional "idCardSource" draft.source

def draftNote (draft : Draft) : String :=
  s!"Creating card '{draft.name.shown}' in list {draft.column.shown} at {draft.position.shown}"

def cardPath (card : Tree) : String :=
  s!"/1/cards/{card.shown}"

def service (client : Trello) (transport : Transport σ) : Service σ where
  boards := client.send transport "GET" "/1/members/me/boards" [] readBoards
  columns board :=
    client.send transport "GET" s!"/1/boards/{board.shown}/lists" [] (readAll Column.ofTree)
  cards board :=
    client.send transport "GET" s!"/1/boards/{board.shown}/cards" [] (readAll Card.ofTree)
  cardsIn column :=
    client.send transport "GET" s!"/1/lists/{column.shown}/cards" [] (readAll Card.ofTree)
  labels board :=
    client.send transport "GET" s!"/1/boards/{board.shown}/labels" [] (readAll Label.ofTree)
  create draft state :=
    announced (draftNote draft)
      (client.send transport "POST" "/1/cards" (draftParameters draft) Card.ofTree state)
  move card column position state :=
    announced s!"Moving card {card.shown} to list {column.shown} at {position.shown}"
      (client.send transport "PUT" (cardPath card) [("idList", column), ("pos", position)]
        Card.ofTree state)
  rename card name := client.send transport "PUT" (cardPath card) [("name", name)] Card.ofTree
  describe card description :=
    client.send transport "PUT" (cardPath card) [("desc", description)] Card.ofTree

end Trello

end Kanban
