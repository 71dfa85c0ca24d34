/-!
Draws.  A source of draws is the sequence of whole numbers it will give; a draw below `n` takes the
next one modulo `n`, and what is left is the same sequence from one place further on.
-/
namespace Kanban

structure Draws where
  number : Nat → Int
  taken : Nat := 0

namespace Draws

def below (draws : Draws) (n : Nat) : Nat × Draws :=
  ((draws.number draws.taken % n).toNat, { draws with taken := draws.taken + 1 })

theorem below_lt (draws : Draws) {n : Nat} (positive : 0 < n) : (draws.below n).1 < n := by
  have nonzero : (n : Int) ≠ 0 := by omega
  have lower := Int.emod_nonneg (draws.number draws.taken) nonzero
  have upper := Int.emod_lt_of_pos (draws.number draws.taken) (by omega : (0 : Int) < n)
  simp only [below]
  omega

@[simp] theorem below_taken (draws : Draws) (n : Nat) :
    (draws.below n).2.taken = draws.taken + 1 := rfl

@[simp] theorem below_number (draws : Draws) (n : Nat) :
    (draws.below n).2.number = draws.number := rfl

/-- Draws indices until one comes up that has not been seen; none if this never ends. -/
def fresh? (total : Nat) (seen : List Nat) (draws : Draws) : Option (Nat × Draws) :=
  let (index, rest) := draws.below total
  if index ∈ seen then rest |>.fresh? total seen else some (index, rest)
partial_fixpoint

/-- Adds as many different indices below `total` as are missing, in order of first appearance; none
if this never ends. -/
def distinctFrom? (total : Nat) :
    (missing : Nat) → (drawn : List Nat) → Draws → Option (List Nat × Draws)
  | 0, drawn, draws => some (drawn, draws)
  | missing + 1, drawn, draws => do
      let (index, rest) ← fresh? total drawn draws
      distinctFrom? total missing (drawn ++ [index]) rest

/-- What stands for the indices that a source never gives.  To draw from it would never end, so what
follows this answer in a run says nothing; a source that offers every index again and again never
comes to it. -/
def unending (draws : Draws) (total size : Nat) : List Nat × Draws :=
  ((List.range total).take size, draws)

def distinct (draws : Draws) (total size : Nat) : List Nat × Draws :=
  (distinctFrom? total size [] draws).getD (draws.unending total size)

def exchange (items : List α) (i j : Nat) : List α :=
  match items[i]?, items[j]? with
  | some a, some b => (items.set i b).set j a
  | _, _ => items

/-- Exchanges the items at `last`, `last - 1`, …, 1, each with a drawn one not after it. -/
def shuffleFrom : (last : Nat) → List α → Draws → List α × Draws
  | 0, items, draws => (items, draws)
  | last + 1, items, draws =>
      let (j, rest) := draws.below (last + 2)
      shuffleFrom last (exchange items (last + 1) j) rest

def shuffle (draws : Draws) (items : List α) : List α × Draws :=
  shuffleFrom (items.length - 1) items draws

end Draws

end Kanban
