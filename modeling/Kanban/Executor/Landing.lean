import Kanban.Task

/-!
Where a card lands in a column.  For a random place one of the gaps around the cards already there
is drawn: the gap above them, the gap below them, or one between two neighbours, which is taken in
the middle.  Positions may be numbers of any kind that have a middle.
-/
namespace Kanban

inductive Landing (α : Type) where
  | top
  | bottom
  | at (position : α)
  deriving DecidableEq, Repr

namespace Landing

/-- The gap number `slot` among positions in ascending order. -/
def inGap (middle : α → α → α) (positions : List α) (slot : Nat) : Landing α :=
  if slot = 0 then
    top
  else if slot = positions.length then
    bottom
  else
    match positions[slot - 1]?, positions[slot]? with
    | some before, some after => .at (middle before after)
    | _, _ => bottom

end Landing

end Kanban
