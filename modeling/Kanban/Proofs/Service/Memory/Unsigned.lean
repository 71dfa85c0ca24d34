import Kanban.Executor
import Kanban.Proofs.Entity.Written
import Kanban.Proofs.Service.Memory.Replay

namespace Kanban

def Tree.unsigned : Tree → Tree
  | real x => real (Number.unsigned x)
  | other => other

def Draft.unsigned (draft : Draft) : Draft :=
  { draft with position := draft.position.unsigned }

def BoardCall.unsigned : BoardCall → BoardCall
  | create draft => create draft.unsigned
  | move card column position => move card column position.unsigned
  | other => other

namespace Memory

def unsigned (memory : Memory) : Memory :=
  { memory with cards := memory.cards.map Card.unsigned }

variable (memory : Memory)

theorem cardsInColumn_unsigned (column : Tree) :
    memory.unsigned.cardsInColumn column = (memory.cardsInColumn column).map Card.unsigned :=
  List.filter_map

theorem cardsOf_unsigned (board : Tree) :
    memory.unsigned.cardsOf board = (memory.cardsOf board).map Card.unsigned :=
  List.filter_map

theorem labelIdsOf_unsigned (card : Tree) :
    memory.unsigned.labelIdsOf card = memory.labelIdsOf card := by
  simp [unsigned, labelIdsOf, List.find?_map, Function.comp_def, Card.unsigned]

theorem foldl_unsigned {prefers : Float → Float → Prop} [DecidableRel prefers]
    (respects : ∀ x y, prefers (Number.unsigned x) (Number.unsigned y) ↔ prefers x y)
    (first : Float) (rest : List Float) :
    (rest.map Number.unsigned).foldl (fun kept x => if prefers x kept then x else kept)
        (Number.unsigned first) =
      Number.unsigned (rest.foldl (fun kept x => if prefers x kept then x else kept) first) := by
  induction rest generalizing first with
  | nil => rfl
  | cons next rest ih =>
      simp only [List.map_cons, List.foldl_cons, respects]
      rw [← ih]
      split <;> rfl

theorem least_unsigned (positions : List Float) :
    least (positions.map Number.unsigned) = (least positions).map Number.unsigned := by
  cases positions with
  | nil => rfl
  | cons first rest => exact congrArg some (foldl_unsigned Number.unsigned_lt_unsigned first rest)

theorem greatest_unsigned (positions : List Float) :
    greatest (positions.map Number.unsigned) = (greatest positions).map Number.unsigned := by
  cases positions with
  | nil => rfl
  | cons first rest =>
      exact congrArg some
        (foldl_unsigned (fun x y => Number.unsigned_lt_unsigned y x) first rest)

def landed (column : Tree) : Landing Float → Float
  | .top => ((least ((memory.cardsInColumn column).map (·.position))).map (· / 2)).getD 512.0
  | .bottom =>
      ((greatest ((memory.cardsInColumn column).map (·.position))).map (· + 1024)).getD 1024.0
  | .at position => position

theorem landing_landed (column : Tree) (place : Landing Float) :
    memory.landing column (Executor.position place) = .ok (memory.landed column place) := by
  cases place <;> rfl

end Memory

def Landing.unsigned : Landing Float → Landing Float
  | .at position => .at (Number.unsigned position)
  | other => other

theorem Executor.position_unsigned (place : Landing Float) :
    (position place).unsigned = position place.unsigned := by
  cases place <;> rfl

namespace Memory

variable (memory : Memory)

theorem landed_unsigned (column : Tree) (place : Landing Float) :
    Number.unsigned (memory.unsigned.landed column place.unsigned) =
      Number.unsigned (memory.landed column place) := by
  have positions : (memory.unsigned.cardsInColumn column).map (·.position) =
      ((memory.cardsInColumn column).map (·.position)).map Number.unsigned := by
    simp [cardsInColumn_unsigned, Card.unsigned]
  cases place with
  | top =>
      simp only [landed, Landing.unsigned, positions, least_unsigned]
      cases least ((memory.cardsInColumn column).map (·.position)) with
      | none => rfl
      | some lowest => exact Number.unsigned_div lowest 2
  | bottom =>
      simp only [landed, Landing.unsigned, positions, greatest_unsigned]
      cases greatest ((memory.cardsInColumn column).map (·.position)) with
      | none => rfl
      | some highest => exact Number.unsigned_add_right highest 1024
  | «at» position => exact Number.unsigned_unsigned position

theorem drafted_unsigned (draft : Draft) (position : Float) :
    (memory.drafted draft position).unsigned =
      memory.unsigned.drafted draft.unsigned (Number.unsigned position) := by
  simp only [drafted, Draft.unsigned, labelIdsOf_unsigned]
  rfl

theorem appending_unsigned (card : Card) :
    (memory.appending card).unsigned = memory.unsigned.appending card.unsigned := by
  simp [appending, unsigned]

theorem replaceCard_unsigned (cards : List Card) (id : Tree) (card : Card) :
    (replaceCard cards id card).map Card.unsigned =
      replaceCard (cards.map Card.unsigned) id card.unsigned := by
  induction cards with
  | nil => rfl
  | cons first rest ih =>
      have same : first.unsigned.id = first.id := rfl
      simp only [replaceCard, List.map_cons, same]
      split
      next => rfl
      next => rw [List.map_cons, ih]

theorem replacing_unsigned (id : Tree) (card : Card) :
    (memory.replacing id card).unsigned = memory.unsigned.replacing id card.unsigned := by
  simp [replacing, unsigned, replaceCard_unsigned]

theorem cardNamed?_unsigned (id : Tree) :
    memory.unsigned.cardNamed? id = (memory.cardNamed? id).map Card.unsigned := by
  exact List.find?_map ..

end Memory

end Kanban
