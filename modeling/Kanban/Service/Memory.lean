import Kanban.Service

/-!
A board kept in memory.  Every call is recorded; writes are counted, and the write whose number is
`failAt` fails after it was recorded and changes nothing.
-/
namespace Kanban

structure Memory where
  boards : List Board := []
  columns : List (Tree × List Column) := []
  labels : List (Tree × List Label) := []
  cards : List Card := []
  created : Nat := 0
  writes : Nat := 0
  failAt : Option Int := none

namespace Memory

def rowOf (table : List (Tree × List α)) (id : Tree) : List α :=
  ((table.reverse.find? fun row => row.1.same id).map (·.2)).getD []

def columnsOf (memory : Memory) (board : Tree) : List Column :=
  rowOf memory.columns board

def cardsOf (memory : Memory) (board : Tree) : List Card :=
  memory.cards.filter fun card =>
    (memory.columnsOf board).any fun column => card.columnId.same column.id

def cardsInColumn (memory : Memory) (column : Tree) : List Card :=
  memory.cards.filter fun card => card.columnId.same column

def least (positions : List Float) : Option Float :=
  match positions with
  | [] => none
  | first :: rest => some (rest.foldl (fun low x => if x < low then x else low) first)

def greatest (positions : List Float) : Option Float :=
  match positions with
  | [] => none
  | first :: rest => some (rest.foldl (fun high x => if high < x then x else high) first)

/-- The number at which a card lands in a column: above all cards, below them, or as given. -/
def landing (memory : Memory) (column position : Tree) : Except Misuse Float :=
  let taken := (memory.cardsInColumn column).map (·.position)
  match position with
  | .text "top" => .ok (((least taken).map (· / 2)).getD 512.0)
  | .text "bottom" => .ok (((greatest taken).map (· + 1024)).getD 1024.0)
  | other => Entity.number other

/-- Counts a write; none if it is the one that fails. -/
def countWrite (memory : Memory) : Memory × Bool :=
  let counted := { memory with writes := memory.writes + 1 }
  (counted, memory.failAt == some (counted.writes : Int))

def labelIdsOf (memory : Memory) (card : Tree) : List Tree :=
  ((memory.cards.find? fun other => other.id.same card).map (·.labelIds)).getD []

def newId (number : Nat) : Tree :=
  .text s!"new-{number}"

def drafted (memory : Memory) (draft : Draft) (position : Float) : Card :=
  { id := newId (memory.created + 1)
    name := draft.name
    description := draft.description
    columnId := draft.column
    labelIds := match draft.source with
      | .null => []
      | source => memory.labelIdsOf source
    position
    url := .text ""
    shortUrl := .text "" }

def replaceCard (cards : List Card) (id : Tree) (replacement : Card) : List Card :=
  match cards with
  | [] => []
  | card :: rest =>
      if card.id.same id then replacement :: rest else card :: replaceCard rest id replacement

def create (draft : Draft) (memory : Memory) : Reply Memory Card :=
  let events := [Event.call (.create draft)]
  let (counted, fails) := memory.countWrite
  if fails then
    ⟨.error (.ofRun .boardDown), counted, events⟩
  else
    match counted.landing draft.column draft.position with
    | .error cause => ⟨.error (.misuse cause), counted, events⟩
    | .ok position =>
        let card := counted.drafted draft position
        let changed :=
          { counted with cards := counted.cards ++ [card], created := counted.created + 1 }
        ⟨.ok card, changed, events⟩

def move (id column position : Tree) (memory : Memory) : Reply Memory Card :=
  let events := [Event.call (.move id column position)]
  let (counted, fails) := memory.countWrite
  if fails then
    ⟨.error (.ofRun .boardDown), counted, events⟩
  else
    match counted.cards.find? fun card => card.id.same id with
    | none => ⟨.error (.ofRun (.cardMissing id)), counted, events⟩
    | some card =>
        match counted.landing column position with
        | .error cause => ⟨.error (.misuse cause), counted, events⟩
        | .ok landed =>
            let moved := { card with columnId := column, position := landed }
            let changed := { counted with cards := replaceCard counted.cards id moved }
            ⟨.ok moved, changed, events⟩

def service : Service Memory where
  boards memory := ⟨.ok memory.boards, memory, [.call .boards]⟩
  columns board memory := ⟨.ok (memory.columnsOf board), memory, [.call (.columns board)]⟩
  cards board memory := ⟨.ok (memory.cardsOf board), memory, [.call (.cards board)]⟩
  cardsIn column memory :=
    ⟨.ok (memory.cardsInColumn column), memory, [.call (.cardsIn column)]⟩
  labels board memory := ⟨.ok (rowOf memory.labels board), memory, [.call (.labels board)]⟩
  create := create
  move := move
  rename _ _ memory := ⟨.error (.misuse .notProvided), memory, []⟩
  describe _ _ memory := ⟨.error (.misuse .notProvided), memory, []⟩

end Memory

end Kanban
