import Kanban.Entity
import Kanban.Proofs.Number.Unsigned

namespace Kanban

@[simp] theorem Tree.orElse_text {value : Tree} (text : value.isText) :
    value.orElse (.text "") = value := by
  cases value with
  | text s =>
      by_cases empty : s = ""
      · rw [empty]
        rfl
      · simp [orElse, isGiven, empty]
  | _ => cases text

def Board.toTree (board : Board) : Tree :=
  .map [(.text "id", board.id), (.text "name", board.name), (.text "closed", .bool board.closed)]

def Column.toTree (column : Column) : Tree :=
  .map [(.text "id", column.id), (.text "name", column.name),
    (.text "closed", .bool column.closed)]

def Label.toTree (label : Label) : Tree :=
  .map [(.text "id", label.id), (.text "name", label.name), (.text "color", label.color)]

def Card.toTree (card : Card) : Tree :=
  .map [(.text "id", card.id), (.text "name", card.name), (.text "desc", card.description),
    (.text "idList", card.columnId), (.text "idLabels", .list card.labelIds),
    (.text "pos", .real card.position), (.text "url", card.url),
    (.text "shortUrl", card.shortUrl)]

/-- The card with the sign of a zero in its position dropped. -/
def Card.unsigned (card : Card) : Card :=
  { card with position := Number.unsigned card.position }

namespace Entity

theorem elementsOf_list (items : List Tree) : elementsOf (.list items) = .ok items := by
  cases items <;> rfl

theorem positionOf_real (x : Float) : positionOf (.real x) = .ok (Number.unsigned x) := by
  simp only [positionOf, Tree.orElse, Tree.isGiven, Number.unsigned]
  by_cases zero : (x == 0.0) = true
  · simp only [zero, Bool.not_true, Bool.false_eq_true, if_false, if_true, number]
  · simp only [zero, Bool.not_false, Bool.false_eq_true, if_false, if_true, number]

theorem all_written {read : Tree → Except Misuse α} {write : α → Tree} {found : α → α}
    {items : List α} (reads : ∀ item ∈ items, read (write item) = .ok (found item)) :
    Entity.all read (items.map write) = .ok (items.map found) := by
  induction items with
  | nil => rfl
  | cons item rest ih =>
      rw [List.map_cons, Entity.all, reads item List.mem_cons_self,
        ih fun other member => reads other (List.mem_cons_of_mem _ member)]
      rfl

end Entity

theorem Board.ofTree_toTree (board : Board) : Board.ofTree board.toTree = .ok board := by
  rfl

theorem Column.ofTree_toTree (column : Column) : Column.ofTree column.toTree = .ok column := by
  rfl

theorem Label.ofTree_toTree {label : Label} (named : label.name.isText) :
    Label.ofTree label.toTree = .ok label := by
  have name : label.name.orElse (.text "") = label.name := Tree.orElse_text named
  change Except.ok { label with name := label.name.orElse (.text "") } = _
  rw [name]

theorem Card.ofTree_toTree {card : Card} (described : card.description.isText) :
    Card.ofTree card.toTree = .ok card.unsigned := by
  have description : card.description.orElse (.text "") = card.description :=
    Tree.orElse_text described
  change (do
    let labelIds ← Entity.elementsOf (.list card.labelIds)
    let position ← Entity.positionOf (.real card.position)
    return { card with description := card.description.orElse (.text ""), labelIds, position }) = _
  rw [Entity.elementsOf_list, Entity.positionOf_real, description]
  rfl

end Kanban
