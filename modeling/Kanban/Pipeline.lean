import Kanban.Entity
import Kanban.Pipeline.Phase
import Kanban.Text.Blank

namespace Kanban

structure Pipeline where
  phase : Phase
  items : List Card := []

namespace Pipeline

def start : Pipeline :=
  { phase := .init }

def holding (cards : List Card) : Pipeline :=
  { phase := .pipe, items := cards }

def finished : Pipeline :=
  { phase := .done }

def isPipe (pipeline : Pipeline) : Bool :=
  pipeline.phase == .pipe

/-- The cards in the pipe; there are none to be had in any other phase. -/
def cards (pipeline : Pipeline) : Except RunTrouble (List Card) :=
  match pipeline.phase with
  | .pipe => .ok pipeline.items
  | phase => .error (.noPipe phase)

def cardLine (card : Card) : String :=
  Text.trimmedEnd s!"{card.name.shown} {card.shortUrl.shown}"

def shown (pipeline : Pipeline) : String :=
  match pipeline.phase, pipeline.items with
  | .pipe, [] => "no cards found"
  | .pipe, items => "\n".intercalate (items.map cardLine)
  | phase, _ => phase.word

@[simp] theorem cards_holding (cards : List Card) : (holding cards).cards = .ok cards := rfl

@[simp] theorem cards_start : start.cards = .error (.noPipe .init) := rfl

@[simp] theorem cards_finished : finished.cards = .error (.noPipe .done) := rfl

end Pipeline

end Kanban
