import Kanban.Sorting.Search

namespace Kanban.Sorting

section

variable {m : Type → Type} [Monad m] {α : Type} (less : α → α → m Bool)

/-- The number of items that go on as a row does behind one item: each of them is less than the one
before it if the row descends, and is not if it ascends. -/
def rowLength (descends : Bool) : α → List α → m Nat
  | _, [] => return 0
  | before, next :: rest => do
      if (← less next before) = descends then
        return (← rowLength descends next rest) + 1
      else
        return 0

/-- The items at the front that are in order already, or in strictly descending order and then
turned around, and the items behind them. -/
def frontRow : List α → m (List α × List α)
  | first :: second :: rest => do
      let descends ← less second first
      let length ← rowLength less descends second rest
      let (row, others) := (first :: second :: rest).splitAt (length + 2)
      return (if descends then row.reverse else row, others)
  | items => return (items, [])

/-- The place of an item in a row, behind those that it is not less than. -/
def placeOf (row : List α) (item : α) : m Nat :=
  halve (fun other => not <$> less item other) .front row.toArray 0 row.length

def insertAll (row : List α) : List α → m (List α)
  | [] => return row
  | item :: rest => do
      let place ← placeOf less row item
      insertAll (row.take place ++ item :: row.drop place) rest

/-- The row at the front, made up to a least length if there are items for that, and what is left.
-/
def takeRow (least : Nat) (items : List α) : m (List α × List α) := do
  let (row, rest) ← frontRow less items
  let missing := least - row.length
  return (← insertAll less row (rest.take missing), rest.drop missing)

end

end Kanban.Sorting
