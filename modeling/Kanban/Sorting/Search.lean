/-!
Searching a row for the place where the items that pass a test end.  The first places are tested in
growing steps, and those between the last two by halving.  If the items that pass are not just those
at the front, what is found depends on the items that happen to be tested.
-/
namespace Kanban.Sorting

/-- The end of a row at which one starts.  A row that is gone through from the back is turned
around. -/
inductive Side where
  | front
  | back
  deriving DecidableEq, Repr

/-- The place in the middle of so many, where of two the one further back in the row counts. -/
def Side.middle (side : Side) (width : Nat) : Nat :=
  match side with
  | .front => width / 2
  | .back => (width - 1) / 2

theorem Side.middle_lt (side : Side) {width : Nat} (positive : 0 < width) :
    side.middle width < width := by
  cases side <;> simp only [middle] <;> omega

section

variable {m : Type → Type} [Monad m] {α : Type} (passes : α → m Bool)

/-- Halves the `width` places behind the first `low` ones until none is left. -/
def halve (side : Side) (items : Array α) (low width : Nat) : m Nat :=
  if _some : 0 < width then
    let half := side.middle width
    match items[low + half]? with
    | none => return low
    | some item => do
        if ← passes item then
          halve side items (low + half + 1) (width - half - 1)
        else
          halve side items low half
  else
    return low
termination_by width
decreasing_by
  · omega
  · exact side.middle_lt _some

def stride (items : Array α) (near far : Nat) : m (Nat × Nat) :=
  if inside : far < items.size then do
    if ← passes items[far] then
      stride items far (2 * far + 1)
    else
      return (near, far)
  else
    return (near, items.size)
termination_by items.size - far

def search (side : Side) (items : List α) : m Nat :=
  match items with
  | [] => return 0
  | first :: _ => do
      if ← passes first then
        let row := items.toArray
        let (near, far) ← stride passes row 0 1
        halve passes side row (near + 1) (far - near - 1)
      else
        return 0

end

end Kanban.Sorting
