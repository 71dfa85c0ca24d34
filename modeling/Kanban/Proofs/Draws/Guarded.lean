import Kanban.Proofs.Draws.Rearranging

namespace Kanban.Draws

def below? (draws : Draws) (n : Nat) : Option (Nat × Draws) :=
  if 0 < n then some (draws.below n) else none

/-- The guarded form of `fresh?`: none if it never ends, or the answer, unless the guard says no. -/
def freshGuarded? (total : Nat) (seen : List Nat) (draws : Draws) :
    Option (Option (Nat × Draws)) :=
  match draws.below? total with
  | none => some none
  | some (index, rest) =>
      if index ∈ seen then rest |>.freshGuarded? total seen else some (some (index, rest))
partial_fixpoint

def distinctFromGuarded? (total : Nat) :
    (missing : Nat) → (drawn : List Nat) → Draws → Option (Option (List Nat × Draws))
  | 0, drawn, draws => some (some (drawn, draws))
  | missing + 1, drawn, draws => do
      match ← freshGuarded? total drawn draws with
      | none => return none
      | some (index, rest) => distinctFromGuarded? total missing (drawn ++ [index]) rest

def distinctGuarded? (draws : Draws) (total size : Nat) : Option (List Nat × Draws) :=
  (distinctFromGuarded? total size [] draws).getD (some (draws.unending total size))

def exchange? (items : List α) (i j : Nat) : Option (List α) := do
  let a ← items[i]?
  let b ← items[j]?
  return (items.set i b).set j a

def shuffleGuarded? : (last : Nat) → List α → Draws → Option (List α × Draws)
  | 0, items, draws => some (items, draws)
  | last + 1, items, draws => do
      let (j, rest) ← draws.below? (last + 2)
      shuffleGuarded? last (← exchange? items (last + 1) j) rest

section

variable {total : Nat}

theorem below?_positive (draws : Draws) (positive : 0 < total) :
    draws.below? total = some (draws.below total) :=
  if_pos positive

theorem freshGuarded?_of_fresh? (positive : 0 < total) {seen : List Nat} {draws : Draws}
    {answer : Nat × Draws} (found : fresh? total seen draws = some answer) :
    freshGuarded? total seen draws = some (some answer) := by
  refine fresh?.partial_correctness total seen
    (fun draws answer => freshGuarded? total seen draws = some (some answer)) ?_ draws answer found
  intro again onward draws answer given
  rw [freshGuarded?, below?_positive draws positive]
  dsimp only at given ⊢
  split at given
  next member =>
    rw [if_pos member]
    exact onward _ _ given
  next new =>
    rw [if_neg new]
    exact congrArg some given

/-- The guard never speaks up, so the guarded loop ends only where the other one does. -/
theorem fresh?_ends_of_freshGuarded? (positive : 0 < total) {seen : List Nat} {draws : Draws}
    {granted : Option (Nat × Draws)} (found : freshGuarded? total seen draws = some granted) :
    (fresh? total seen draws).isSome := by
  refine freshGuarded?.partial_correctness total seen
    (fun draws _ => (fresh? total seen draws).isSome) ?_ draws granted found
  intro again onward draws granted given
  rw [fresh?]
  rw [below?_positive draws positive] at given
  dsimp only at given ⊢
  split at given
  next member =>
    rw [if_pos member]
    exact onward _ _ given
  next new =>
    rw [if_neg new]
    rfl

theorem freshGuarded?_positive (positive : 0 < total) (seen : List Nat) (draws : Draws) :
    freshGuarded? total seen draws = (fresh? total seen draws).map some := by
  cases found : fresh? total seen draws with
  | some answer => exact freshGuarded?_of_fresh? positive found
  | none =>
      cases granted : freshGuarded? total seen draws with
      | none => rfl
      | some answer =>
          have ends := fresh?_ends_of_freshGuarded? positive granted
          rw [found] at ends
          cases ends

theorem distinctFromGuarded?_positive (positive : 0 < total) (missing : Nat) (drawn : List Nat)
    (draws : Draws) :
    distinctFromGuarded? total missing drawn draws =
      (distinctFrom? total missing drawn draws).map some := by
  induction missing generalizing drawn draws with
  | zero => rfl
  | succ missing ih =>
      rw [distinctFromGuarded?, freshGuarded?_positive positive, distinctFrom?]
      cases fresh? total drawn draws with
      | none => rfl
      | some found => exact ih _ _

theorem distinctGuarded?_positive (positive : 0 < total) (size : Nat) (draws : Draws) :
    draws.distinctGuarded? total size = some (draws.distinct total size) := by
  rw [distinctGuarded?, distinctFromGuarded?_positive positive, distinct]
  cases distinctFrom? total size [] draws <;> rfl

end

theorem exchange?_inside {items : List α} {i j : Nat} (insideI : i < items.length)
    (insideJ : j < items.length) : exchange? items i j = some (exchange items i j) := by
  simp [exchange?, exchange, insideI, insideJ]

theorem shuffleGuarded?_inside {last : Nat} {items : List α} (inside : last ≤ items.length - 1)
    (draws : Draws) : shuffleGuarded? last items draws = some (shuffleFrom last items draws) := by
  induction last generalizing items draws with
  | zero => rfl
  | succ last ih =>
      have positive : 0 < last + 2 := by omega
      have drawn := draws.below_lt positive
      have length := (exchange_perm items (last + 1) (draws.below (last + 2)).1).length_eq
      rw [shuffleGuarded?, below?_positive draws positive, shuffleFrom]
      simp only [Option.bind_eq_bind, Option.bind_some]
      rw [exchange?_inside (by omega) (by omega)]
      exact ih (by omega) _

end Kanban.Draws
