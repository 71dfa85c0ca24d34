import Kanban.Draws

namespace Kanban.Draws

variable {draws between later : Draws}

def after (draws : Draws) (count : Nat) : Draws :=
  { draws with taken := draws.taken + count }

theorem after_after (draws : Draws) (count more : Nat) :
    (draws.after count).after more = draws.after (count + more) := by
  simp only [after, Nat.add_assoc]

/-- Draws are taken one after the other, and nothing else becomes of them. -/
def MovesOn (draws later : Draws) : Prop :=
  ∃ count, later = draws.after count

theorem MovesOn.refl (draws : Draws) : draws.MovesOn draws :=
  ⟨0, rfl⟩

theorem MovesOn.trans (first : draws.MovesOn between) (second : between.MovesOn later) :
    draws.MovesOn later := by
  obtain ⟨count, rfl⟩ := first
  obtain ⟨more, rfl⟩ := second
  exact ⟨count + more, after_after draws count more⟩

theorem below_movesOn (draws : Draws) (n : Nat) : draws.MovesOn (draws.below n).2 :=
  ⟨1, rfl⟩

theorem fresh?_movesOn {total index : Nat} {seen : List Nat}
    (found : fresh? total seen draws = some (index, later)) : draws.MovesOn later := by
  refine fresh?.partial_correctness total seen (fun draws answer => draws.MovesOn answer.2) ?_
    draws (index, later) found
  intro again onward draws answer given
  dsimp only at given
  split at given
  next => exact (below_movesOn draws total).trans (onward _ _ given)
  next =>
    cases given
    exact below_movesOn draws total

theorem distinctFrom?_movesOn {total missing : Nat} {drawn indices : List Nat}
    (found : distinctFrom? total missing drawn draws = some (indices, later)) :
    draws.MovesOn later := by
  induction missing generalizing drawn draws with
  | zero =>
      cases found
      exact .refl _
  | succ missing ih =>
      obtain ⟨⟨index, between⟩, first, onward⟩ := Option.bind_eq_some_iff.mp found
      exact (fresh?_movesOn first).trans (ih onward)

theorem distinct_movesOn (draws : Draws) (total size : Nat) :
    draws.MovesOn (draws.distinct total size).2 := by
  rw [distinct]
  cases found : distinctFrom? total size [] draws with
  | none => exact .refl draws
  | some ended => exact distinctFrom?_movesOn found

theorem shuffleFrom_movesOn (last : Nat) (items : List α) (draws : Draws) :
    draws.MovesOn (shuffleFrom last items draws).2 := by
  induction last generalizing items draws with
  | zero => exact .refl draws
  | succ last ih =>
      rw [shuffleFrom]
      exact (below_movesOn draws (last + 2)).trans (ih _ _)

theorem shuffle_movesOn (draws : Draws) (items : List α) :
    draws.MovesOn (draws.shuffle items).2 :=
  shuffleFrom_movesOn _ items draws

end Kanban.Draws
