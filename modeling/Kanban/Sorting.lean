import Kanban.Sorting.Merge

/-!
Sorting by comparisons that have an effect, such as failing where two items cannot be compared, or
that are no order, so that it matters which items are compared.  The list is cut into rows, and
neighbouring rows are merged.  Rows wait until the next one shows how much deeper in the list the
cut between them lies than the cuts before it: the deepest are merged first.
-/
namespace Kanban.Sorting

structure Row (α : Type) where
  start : Nat
  items : List α
  depth : Nat := 0

def oneRow : Nat :=
  64

/-- The least length of a row: such that the list is cut into a power of two of them, or a few
less. -/
def leastRow (length : Nat) (odd : Bool := false) : Nat :=
  if length < oneRow then
    length + odd.toNat
  else
    leastRow (length / 2) (odd || length % 2 == 1)
termination_by length
decreasing_by
  simp only [oneRow] at *
  omega

/-- The number of halvings of the list after which two places, given by their doubles, lie in
different parts. -/
def cutDepth (length : Nat) : (fuel : Nat) → (left right : Nat) → Nat
  | 0, _, _ => 0
  | fuel + 1, left, right =>
      if length ≤ left then
        cutDepth length fuel (2 * (left - length)) (2 * (right - length)) + 1
      else if length ≤ right then
        1
      else
        cutDepth length fuel (2 * left) (2 * right) + 1

/-- The depth of the cut between two rows, from the middle of the first to that of the second. -/
def Row.depthBefore {α : Type} (row next : Row α) (length : Nat) : Nat :=
  let middle := 2 * row.start + row.items.length
  cutDepth length (length + 1) middle (middle + row.items.length + next.items.length)

section

variable {m : Type → Type} [Monad m] {α : Type} (less : α → α → m Bool)

def join (row next : Row α) : Learning m (Row α) := do
  return { row with items := ← merge less row.items next.items }

/-- Merges the last rows as long as the cut before the last one is deeper than the new one; the last
row comes first. -/
def settle (depth : Nat) : (rows : List (Row α)) → Learning m (List (Row α))
  | last :: before :: rest => do
      if depth < before.depth then
        settle depth ((← join less before last) :: rest)
      else
        return last :: before :: rest
  | rows => return rows
termination_by rows => rows.length

def add (length : Nat) (rows : List (Row α)) (row : Row α) : Learning m (List (Row α)) :=
  match rows with
  | [] => return [row]
  | last :: _ => do
      let depth := last.depthBefore row length
      match ← settle less depth rows with
      | last :: rest => return row :: { last with depth } :: rest
      | [] => return [row]

def cut (length : Nat) : (fuel start : Nat) → List (Row α) → List α → Learning m (List (Row α))
  | 0, _, rows, _ => return rows
  | _, _, rows, [] => return rows
  | fuel + 1, start, rows, items => do
      let (row, rest) ← (takeRow less (leastRow length) items : m _)
      let rows ← add less length rows { start, items := row }
      cut length fuel (start + row.length) rows rest

/-- Merges all rows, of three neighbours the shorter pair first. -/
def mergeAll : (rows : List (Row α)) → Learning m (List α)
  | [] => return []
  | [row] => return row.items
  | [last, before] => do
      return (← join less before last).items
  | last :: before :: earlier :: rest => do
      if earlier.items.length < last.items.length then
        mergeAll (last :: (← join less earlier before) :: rest)
      else
        mergeAll ((← join less before last) :: earlier :: rest)
termination_by rows => rows.length

def sort (items : List α) : m (List α) :=
  let length := items.length
  let sorted : Learning m (List α) := do
    mergeAll less (← cut less length length 0 [] items)
  sorted.run' worthwhile

end

end Kanban.Sorting
