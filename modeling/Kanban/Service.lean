import Kanban.Entity
import Kanban.Run
import Kanban.Text.CaseFold

namespace Kanban

structure Service (σ : Type) where
  boards : σ → Reply σ (List Board)
  columns : (board : Tree) → σ → Reply σ (List Column)
  cards : (board : Tree) → σ → Reply σ (List Card)
  cardsIn : (column : Tree) → σ → Reply σ (List Card)
  labels : (board : Tree) → σ → Reply σ (List Label)
  create : Draft → σ → Reply σ Card
  move : (card column position : Tree) → σ → Reply σ Card
  rename : (card name : Tree) → σ → Reply σ Card
  describe : (card description : Tree) → σ → Reply σ Card

namespace Service

def absent : Service σ where
  boards state := ⟨.error (.misuse .notProvided), state, []⟩
  columns _ state := ⟨.error (.misuse .notProvided), state, []⟩
  cards _ state := ⟨.error (.misuse .notProvided), state, []⟩
  cardsIn _ state := ⟨.error (.misuse .notProvided), state, []⟩
  labels _ state := ⟨.error (.misuse .notProvided), state, []⟩
  create _ state := ⟨.error (.misuse .notProvided), state, []⟩
  move _ _ _ state := ⟨.error (.misuse .notProvided), state, []⟩
  rename _ _ state := ⟨.error (.misuse .notProvided), state, []⟩
  describe _ _ state := ⟨.error (.misuse .notProvided), state, []⟩

def boardNamed? (boards : List Board) (name : Tree) : Option Board :=
  boards.find? fun board => !board.closed && (board.name.same name || board.id.same name)

def columnNamed? (columns : List Column) (name : Tree) : Option Column :=
  columns.find? fun column => column.name.same name

/-- Only texts have a case to fold. -/
def folded (value : Tree) : Except Misuse String :=
  match value with
  | .text s => .ok (Text.caseFold s)
  | _ => .error .noSuchPart

def labelFolded? (name : Tree) : List Label → Except Misuse (Option Label)
  | [] => .ok none
  | label :: rest => do
      let written ← folded label.name
      let wanted ← folded name
      if written = wanted then
        return some label
      else
        labelFolded? name rest

def labelNamed? (labels : List Label) (name : Tree) (caseSensitive : Bool) :
    Except Misuse (Option Label) :=
  if caseSensitive then
    .ok (labels.find? fun label => label.name.same name)
  else
    labelFolded? name labels

def findBoard (service : Service σ) (name : Tree) : Run σ (Option Board) := do
  return boardNamed? (← Run.ask service.boards) name

def findColumn (service : Service σ) (board name : Tree) : Run σ (Option Column) := do
  return columnNamed? (← Run.ask (service.columns board)) name

def findLabel (service : Service σ) (board name : Tree) (caseSensitive : Bool := true) :
    Run σ (Option Label) := do
  let labels ← Run.ask (service.labels board)
  Run.ofExcept .misuse (labelNamed? labels name caseSensitive)

end Service

end Kanban
