import Kanban.Proofs.Draws.Distinct
import Mathlib.Data.Nat.Pairing

namespace Kanban.Draws

/-- From whatever number on and below whatever bound: every index is still to come. -/
def Ample (draws : Draws) : Prop :=
  ∀ count total index, index < total → ∃ turn, (draws.after count).upcoming total turn = index

variable {draws later : Draws}

theorem Ample.movesOn (ample : draws.Ample) (moves : draws.MovesOn later) : later.Ample := by
  obtain ⟨before, rfl⟩ := moves
  intro count total index inside
  rw [after_after]
  exact ample (before + count) total index inside

theorem Ample.offers {total size : Nat} (ample : draws.Ample) (enough : size ≤ total) :
    draws.Offers total size := by
  refine ⟨List.range size, List.nodup_range, List.length_range, fun index member => ?_⟩
  exact ample 0 total index (Nat.lt_of_lt_of_le (List.mem_range.mp member) enough)

theorem Ample.ends {total size : Nat} (ample : draws.Ample) (enough : size ≤ total) :
    ∃ indices rest, distinctFrom? total size [] draws = some (indices, rest) := by
  obtain ⟨count, ends⟩ := (ample.offers enough).suffices
  exact ⟨_, _, distinctFrom?_of_suffices ends⟩

/-- Every number comes up again and again: it is the first half of infinitely many pairs. -/
def recurring : Draws where
  number turn := turn.unpair.1

theorem recurring_ample : recurring.Ample := by
  intro count total index inside
  have later : count ≤ Nat.pair index count := Nat.right_le_pair index count
  refine ⟨Nat.pair index count - count, ?_⟩
  have turned : (recurring.after count).taken + (Nat.pair index count - count) =
      Nat.pair index count := by
    simp only [after, recurring]
    omega
  have given : (recurring.after count).number (Nat.pair index count) = index := by
    change (((Nat.pair index count).unpair.1 : Nat) : Int) = index
    rw [Nat.unpair_pair]
  rw [upcoming, turned, given, Int.emod_eq_of_lt (by omega) (by omega), Int.toNat_natCast]

end Kanban.Draws
