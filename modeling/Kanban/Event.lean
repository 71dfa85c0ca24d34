import Kanban.Tree

namespace Kanban

inductive LogLevel where
  | unset
  | debug
  | info
  | warning
  | error
  | critical
  deriving DecidableEq, Repr

namespace LogLevel

def word : LogLevel → String
  | unset => "NOTSET"
  | debug => "DEBUG"
  | info => "INFO"
  | warning => "WARNING"
  | error => "ERROR"
  | critical => "CRITICAL"

def rank : LogLevel → Nat
  | unset => 0
  | debug => 10
  | info => 20
  | warning => 30
  | error => 40
  | critical => 50

def shownAt (level threshold : LogLevel) : Bool :=
  threshold.rank ≤ level.rank

end LogLevel

/-- A card to be created by a board service, at a position of its own or as a copy. -/
structure Draft where
  column : Tree
  name : Tree
  position : Tree
  description : Tree := .text ""
  source : Tree := .null

inductive BoardCall where
  | boards
  | columns (board : Tree)
  | cards (board : Tree)
  | cardsIn (column : Tree)
  | labels (board : Tree)
  | create (draft : Draft)
  | move (card column position : Tree)

def BoardCall.isWrite : BoardCall → Bool
  | create _ | move .. => true
  | _ => false

structure HttpRequest where
  method : String
  url : String
  parameters : List (String × Tree)
  headers : List (String × String)
  timeout : Tree

inductive Event where
  | log (level : LogLevel) (message : String)
  | call (call : BoardCall)
  | request (request : HttpRequest)

namespace Event

def debug (message : String) : Event :=
  log .debug message

def info (message : String) : Event :=
  log .info message

def isLog : Event → Bool
  | log .. => true
  | _ => false

end Event

end Kanban
