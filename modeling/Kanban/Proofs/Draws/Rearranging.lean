import Kanban.Draws
import Mathlib.Data.List.Perm.Subperm

namespace Kanban.Draws

variable {total : Nat} {draws rest : Draws} {drawn : List Nat}

theorem fresh?_new {index : Nat} (positive : 0 < total)
    (found : fresh? total drawn draws = some (index, rest)) : index ∉ drawn ∧ index < total := by
  refine fresh?.partial_correctness total drawn
    (fun _ answer => answer.1 ∉ drawn ∧ answer.1 < total) ?_ draws (index, rest) found
  intro again onward draws answer given
  dsimp only at given
  split at given
  next seen => exact onward _ _ given
  next new =>
    cases given
    exact ⟨new, draws.below_lt positive⟩

theorem distinctFrom?_nodup {missing : Nat} {indices : List Nat} (positive : 0 < total)
    (nodup : drawn.Nodup) (inside : ∀ index ∈ drawn, index < total)
    (found : distinctFrom? total missing drawn draws = some (indices, rest)) :
    indices.Nodup ∧ ∀ index ∈ indices, index < total := by
  induction missing generalizing drawn draws with
  | zero =>
      cases found
      exact ⟨nodup, inside⟩
  | succ missing ih =>
      obtain ⟨⟨index, between⟩, first, onward⟩ := Option.bind_eq_some_iff.mp found
      obtain ⟨new, below⟩ := fresh?_new positive first
      refine ih ?_ ?_ onward
      · exact List.nodup_append.mpr ⟨nodup, by simp, by rintro _ member _ single rfl; simp_all⟩
      · intro other member
        rcases List.mem_append.mp member with member | single
        · exact inside other member
        · rwa [List.mem_singleton.mp single]

theorem distinct_subperm (positive : 0 < total) (size : Nat) :
    (draws.distinct total size).1.Subperm (List.range total) := by
  rw [distinct]
  cases found : distinctFrom? total size [] draws with
  | none => exact (List.take_sublist size _).subperm
  | some ended =>
      obtain ⟨nodup, inside⟩ := distinctFrom?_nodup positive List.nodup_nil (by simp) found
      exact nodup.subperm fun index member => List.mem_range.mpr (inside index member)

theorem exchange_perm (items : List α) (i j : Nat) : (exchange items i j).Perm items := by
  unfold exchange
  split
  next a b atI atJ =>
    obtain ⟨insideI, rfl⟩ := List.getElem?_eq_some_iff.mp atI
    obtain ⟨insideJ, rfl⟩ := List.getElem?_eq_some_iff.mp atJ
    exact List.set_set_perm insideI insideJ
  next => exact .refl items

theorem shuffleFrom_perm (last : Nat) (items : List α) (draws : Draws) :
    (shuffleFrom last items draws).1.Perm items := by
  induction last generalizing items draws with
  | zero => exact .refl items
  | succ last ih => exact (ih _ _).trans (exchange_perm items _ _)

theorem shuffle_perm (draws : Draws) (items : List α) : (draws.shuffle items).1.Perm items :=
  shuffleFrom_perm _ items draws

end Kanban.Draws
