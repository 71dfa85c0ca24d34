import Kanban.Service.Memory

namespace Kanban.Memory

def counted (memory : Memory) : Memory :=
  { memory with writes := memory.writes + 1 }

def isDown (memory : Memory) : Bool :=
  memory.failAt == some ((memory.writes + 1 : Nat) : Int)

def appending (memory : Memory) (card : Card) : Memory :=
  { memory with cards := memory.cards ++ [card], created := memory.created + 1 }

def replacing (memory : Memory) (id : Tree) (card : Card) : Memory :=
  { memory with cards := replaceCard memory.cards id card }

def cardNamed? (memory : Memory) (id : Tree) : Option Card :=
  memory.cards.find? fun card => card.id.same id

inductive Creating (draft : Draft) (memory : Memory) : Reply Memory Card → Prop where
  | down :
      memory.isDown = true →
      Creating draft memory
        ⟨.error (.ofRun .boardDown), memory.counted, [.call (.create draft)]⟩
  | misplaced {cause : Misuse} :
      memory.isDown = false → memory.landing draft.column draft.position = .error cause →
      Creating draft memory ⟨.error (.misuse cause), memory.counted, [.call (.create draft)]⟩
  | appended {position : Float} :
      memory.isDown = false → memory.landing draft.column draft.position = .ok position →
      Creating draft memory
        ⟨.ok (memory.drafted draft position),
          memory.counted.appending (memory.drafted draft position), [.call (.create draft)]⟩

theorem create_creating (draft : Draft) (memory : Memory) :
    Creating draft memory (create draft memory) := by
  unfold create
  dsimp only [countWrite]
  split
  next down => exact .down down
  next up =>
    split
    next cause place => exact .misplaced (by simpa [isDown] using up) place
    next position place => exact .appended (by simpa [isDown] using up) place

inductive Moving (id column position : Tree) (memory : Memory) : Reply Memory Card → Prop where
  | down :
      memory.isDown = true →
      Moving id column position memory
        ⟨.error (.ofRun .boardDown), memory.counted, [.call (.move id column position)]⟩
  | unknown :
      memory.isDown = false → memory.cardNamed? id = none →
      Moving id column position memory
        ⟨.error (.ofRun (.cardMissing id)), memory.counted, [.call (.move id column position)]⟩
  | misplaced {card : Card} {cause : Misuse} :
      memory.isDown = false → memory.cardNamed? id = some card →
      memory.landing column position = .error cause →
      Moving id column position memory
        ⟨.error (.misuse cause), memory.counted, [.call (.move id column position)]⟩
  | replaced {card : Card} {landed : Float} :
      memory.isDown = false → memory.cardNamed? id = some card →
      memory.landing column position = .ok landed →
      Moving id column position memory
        ⟨.ok { card with columnId := column, position := landed },
          memory.counted.replacing id { card with columnId := column, position := landed },
          [.call (.move id column position)]⟩

theorem move_moving (id column position : Tree) (memory : Memory) :
    Moving id column position memory (move id column position memory) := by
  unfold move
  dsimp only [countWrite]
  split
  next down => exact .down down
  next up =>
    have up : memory.isDown = false := by simpa [isDown] using up
    split
    next missing => exact .unknown up missing
    next card found =>
      split
      next cause place => exact .misplaced up found place
      next landed place => exact .replaced up found place

end Kanban.Memory
