import Kanban.Sorting.Row

/-!
Merging two rows.  The shorter row is held aside and the merge starts at the side where it was.
Items are taken one by one, until one row has given so many in turn that searching for the place
where its turn ends promises to be worth it.  How many these are is learnt from merge to merge:
fewer as long as searching pays, more as soon as it does not.
-/
namespace Kanban.Sorting

/-- The items that are merged, the latest first, and those of both rows that are left, in the order
in which they are taken. -/
structure Merging (α : Type) where
  merged : List α := []
  held : List α
  others : List α

namespace Merging

variable {α : Type}

def takeHeld (merging : Merging α) (count : Nat) : Merging α :=
  { merging with
    merged := (merging.held.take count).reverse ++ merging.merged
    held := merging.held.drop count }

def takeOthers (merging : Merging α) (count : Nat) : Merging α :=
  { merging with
    merged := (merging.others.take count).reverse ++ merging.merged
    others := merging.others.drop count }

def isOver (merging : Merging α) : Bool :=
  merging.others.isEmpty || merging.held.length ≤ 1

def result (merging : Merging α) : List α :=
  merging.merged.reverse ++ merging.others ++ merging.held

def room (merging : Merging α) : Nat :=
  merging.held.length + merging.others.length + 1

end Merging

abbrev Learning (m : Type → Type) := StateT Nat m

section

variable {m : Type → Type} [Monad m] {α : Type}

def worthwhile : Nat :=
  7

variable (otherFirst : (held other : α) → m Bool)

/-- Takes items one by one until a row has given `most` of them in turn; `helds` and `others` count
those that it has given last. -/
def alternate (most : Nat) : (fuel helds others : Nat) → Merging α → m (Merging α)
  | 0, _, _, merging => return merging
  | fuel + 1, helds, others, merging =>
      match merging.held, merging.others with
      | held :: _, other :: _ => do
          if ← otherFirst held other then
            let next := merging.takeOthers 1
            if next.isOver || most ≤ others + 1 then
              return next
            else
              alternate most fuel 0 (others + 1) next
          else
            let next := merging.takeHeld 1
            if next.isOver || most ≤ helds + 1 then
              return next
            else
              alternate most fuel (helds + 1) 0 next
      | _, _ => return merging

/-- Takes the held items that come before the next other one, then that one; and tells how many they
were. -/
def turnOfHeld (side : Side) (merging : Merging α) : m (Merging α × Nat) :=
  match merging.others with
  | [] => return (merging, 0)
  | other :: _ => do
      let count ← search (fun held => not <$> otherFirst held other) side merging.held
      let next := merging.takeHeld count
      return (if next.isOver then next else next.takeOthers 1, count)

/-- Takes the other items that come before the next held one, then that one. -/
def turnOfOthers (side : Side) (merging : Merging α) : m (Merging α × Nat) :=
  match merging.held with
  | [] => return (merging, 0)
  | held :: _ => do
      let count ← search (otherFirst held) side merging.others
      let next := merging.takeOthers count
      return (if next.isOver then next else next.takeHeld 1, count)

def turns (side : Side) (merging : Merging α) : m (Merging α × Bool) := do
  let (first, second) :=
    match side with
    | .front => (turnOfHeld otherFirst side, turnOfOthers otherFirst side)
    | .back => (turnOfOthers otherFirst side, turnOfHeld otherFirst side)
  let (next, count) ← first merging
  if next.isOver then
    return (next, true)
  let (next, further) ← second next
  return (next, worthwhile ≤ count || worthwhile ≤ further)

def takeBySearch (side : Side) : (fuel : Nat) → Merging α → Learning m (Merging α)
  | 0, merging => return merging
  | fuel + 1, merging => do
      modify fun most => max 1 (most - 1)
      let (next, goesOn) ← (turns otherFirst side merging : m _)
      if next.isOver then
        return next
      else if goesOn then
        takeBySearch side fuel next
      else
        modify (· + 1)
        return next

def takeAll (side : Side) : (fuel : Nat) → Merging α → Learning m (Merging α)
  | 0, merging => return merging
  | fuel + 1, merging => do
      if merging.isOver then
        return merging
      let most ← get
      let next ← (alternate otherFirst most merging.room 0 0 merging : m _)
      if next.isOver then
        return next
      modify (· + 1)
      takeAll side fuel (← takeBySearch otherFirst side next.room next)

/-- Merges a row that is held with another one, which is known to give the first item. -/
def mergeHeld (side : Side) (held others : List α) : Learning m (List α) := do
  let merging : Merging α := { held, others }
  return (← takeAll otherFirst side merging.room (merging.takeOthers 1)).result

end

/-- Merges two rows of which neither has items that can stay where they are. -/
def mergeInner {m : Type → Type} [Monad m] {α : Type} (less : α → α → m Bool)
    (left right : List α) : Learning m (List α) := do
  if left.length ≤ right.length then
    mergeHeld (fun held other => less other held) .front left right
  else
    return (← mergeHeld less .back right.reverse left.reverse).reverse

/-- Merges two neighbouring rows.  What is in its place already, at the front of the left one and at
the end of the right one, stays there. -/
def merge {m : Type → Type} [Monad m] {α : Type} (less : α → α → m Bool)
    (left right : List α) : Learning m (List α) := do
  let some first := right.head? | return left
  let stays ← (search (fun item => not <$> less first item) .front left : m _)
  let inner := left.drop stays
  let some last := inner.getLast? | return left ++ right
  let stay ← (search (fun item => not <$> less item last) .back right.reverse : m _)
  let (moved, staying) := right.splitAt (right.length - stay)
  if moved.isEmpty then
    return left ++ right
  else
    return left.take stays ++ (← mergeInner less inner moved) ++ staying

end Kanban.Sorting
