import Kanban.Proofs.Draws.Moving
import Kanban.Proofs.Draws.Rearranging
import Kanban.Proofs.Lists.FirstAppearance
import Mathlib.Data.List.Nodup
import Mathlib.Data.Nat.Find

/-!
Drawing until enough different indices have come up.  What has been drawn after some draws is the
list of the different values among them, in order of first appearance; drawing stops as soon as it
is long enough, so it stops wherever enough values ever come up.
-/
namespace Kanban.Draws

variable {total size count : Nat} {draws : Draws}

/-- The index that the draw with this number gives; the next one has the number 0. -/
def upcoming (draws : Draws) (total turn : Nat) : Nat :=
  (draws.number (draws.taken + turn) % total).toNat

def seen (draws : Draws) (total count : Nat) : List Nat :=
  ((List.range count).map (draws.upcoming total)).eraseDups

def Offers (draws : Draws) (total size : Nat) : Prop :=
  ∃ indices : List Nat, indices.Nodup ∧ indices.length = size ∧
    ∀ index ∈ indices, ∃ turn, draws.upcoming total turn = index

/-- The least number of draws among which there are so many different indices. -/
structure Suffices (draws : Draws) (total size count : Nat) : Prop where
  enough : (draws.seen total count).length = size
  least : ∀ fewer < count, (draws.seen total fewer).length < size

theorem Suffices.unique {other : Nat} (ends : draws.Suffices total size count)
    (again : draws.Suffices total size other) : count = other := by
  rcases Nat.lt_trichotomy count other with before | same | behind
  · have short := again.least count before
    rw [ends.enough] at short
    exact absurd short (Nat.lt_irrefl size)
  · exact same
  · have short := ends.least other behind
    rw [again.enough] at short
    exact absurd short (Nat.lt_irrefl size)

theorem below_after (draws : Draws) (total count : Nat) :
    (draws.after count).below total = (draws.upcoming total count, draws.after (count + 1)) := rfl

@[simp] theorem seen_zero (draws : Draws) (total : Nat) : draws.seen total 0 = [] := rfl

theorem mem_seen {index count : Nat} :
    index ∈ draws.seen total count ↔ ∃ turn < count, draws.upcoming total turn = index := by
  simp [seen]

theorem seen_succ (draws : Draws) (total count : Nat) :
    draws.seen total (count + 1) =
      if draws.upcoming total count ∈ draws.seen total count then draws.seen total count
      else draws.seen total count ++ [draws.upcoming total count] := by
  simp only [seen, List.range_succ, List.map_append, List.map_singleton, Lists.eraseDups_snoc,
    List.mem_eraseDups]

theorem seen_nodup (draws : Draws) (total count : Nat) : (draws.seen total count).Nodup :=
  Lists.nodup_eraseDups _

theorem seen_lt {index count : Nat} (positive : 0 < total)
    (member : index ∈ draws.seen total count) : index < total := by
  obtain ⟨turn, _, rfl⟩ := mem_seen.mp member
  exact (draws.after turn).below_lt positive

/-- An index that is offered by name is what the draws give, as long as none is named twice. -/
theorem seen_eq_take {indices : List Nat} (nodup : indices.Nodup)
    (named : ∀ turn (inside : turn < indices.length), draws.upcoming total turn = indices[turn])
    {count : Nat} (short : count ≤ indices.length) :
    draws.seen total count = indices.take count := by
  induction count with
  | zero => rfl
  | succ count ih =>
      have inside : count < indices.length := short
      have here := ih (Nat.le_of_lt inside)
      have new : indices[count] ∉ indices.take count := by
        intro old
        obtain ⟨turn, earlier, same⟩ := List.mem_take_iff_getElem.mp old
        have := nodup.getElem_inj_iff.mp same
        omega
      rw [seen_succ, here, named count inside, if_neg new]
      exact (List.take_append_getElem inside)

theorem distinctFrom?_draw (missing : Nat) (draws : Draws) (count : Nat) :
    distinctFrom? total (missing + 1) (draws.seen total count) (draws.after count) =
      if draws.upcoming total count ∈ draws.seen total count then
        distinctFrom? total (missing + 1) (draws.seen total (count + 1)) (draws.after (count + 1))
      else
        distinctFrom? total missing (draws.seen total (count + 1)) (draws.after (count + 1)) := by
  rw [seen_succ]
  split
  next old =>
    rw [distinctFrom?, fresh?, below_after]
    simp only [old, if_true]
    rw [distinctFrom?]
  next new =>
    rw [distinctFrom?, fresh?, below_after]
    simp only [new, if_false, Option.bind_eq_bind, Option.bind_some]

theorem distinctFrom?_advance {count : Nat}
    (missing : ∀ fewer < count, (draws.seen total fewer).length < size) :
    distinctFrom? total size [] draws =
      distinctFrom? total (size - (draws.seen total count).length) (draws.seen total count)
        (draws.after count) := by
  induction count with
  | zero => rfl
  | succ count ih =>
      have short := missing count (Nat.lt_succ_self count)
      obtain ⟨more, gap⟩ : ∃ more, size - (draws.seen total count).length = more + 1 :=
        Nat.exists_eq_succ_of_ne_zero (by omega)
      rw [ih fun fewer below => missing fewer (Nat.lt_succ_of_lt below), gap, distinctFrom?_draw]
      split
      next old =>
        rw [seen_succ, if_pos old, gap]
      next new =>
        rw [seen_succ, if_neg new, List.length_append, List.length_singleton, ← Nat.sub_sub, gap,
          Nat.add_sub_cancel]

theorem distinctFrom?_of_suffices (ends : draws.Suffices total size count) :
    distinctFrom? total size [] draws = some (draws.seen total count, draws.after count) := by
  rw [distinctFrom?_advance ends.least, ends.enough, Nat.sub_self, distinctFrom?]

theorem subset_seen {indices : List Nat}
    (offered : ∀ index ∈ indices, ∃ turn, draws.upcoming total turn = index) :
    ∃ count, indices ⊆ draws.seen total count := by
  induction indices with
  | nil => exact ⟨0, nofun⟩
  | cons index rest ih =>
      obtain ⟨turn, given⟩ := offered index List.mem_cons_self
      obtain ⟨count, others⟩ := ih fun other member => offered other (List.mem_cons_of_mem _ member)
      refine ⟨max (turn + 1) count, ?_⟩
      rintro other (_ | ⟨_, member⟩)
      · exact mem_seen.mpr ⟨turn, by omega, given⟩
      · obtain ⟨earlier, below, same⟩ := mem_seen.mp (others member)
        exact mem_seen.mpr ⟨earlier, by omega, same⟩

/-- Each draw adds one index at most, so the first time that there are enough there is none too
many. -/
theorem Offers.suffices (offers : draws.Offers total size) :
    ∃ count, draws.Suffices total size count := by
  have reached : ∃ count, size ≤ (draws.seen total count).length := by
    obtain ⟨indices, nodup, rfl, offered⟩ := offers
    obtain ⟨count, all⟩ := subset_seen offered
    exact ⟨count, (nodup.subperm all).length_le⟩
  classical
  refine ⟨Nat.find reached, ?_, ?_⟩
  · apply Nat.le_antisymm _ (Nat.find_spec reached)
    cases least : Nat.find reached with
    | zero => exact Nat.zero_le size
    | succ before =>
        have short : ¬ size ≤ (draws.seen total before).length :=
          Nat.find_min reached (by omega)
        rw [seen_succ]
        split
        · omega
        · rw [List.length_append, List.length_singleton]
          omega
  · intro fewer below
    exact Nat.lt_of_not_le (Nat.find_min reached below)

def naming (indices : List Nat) : Draws where
  number turn := indices.getD turn 0

theorem naming_suffices {indices : List Nat} (nodup : indices.Nodup)
    (inside : ∀ index ∈ indices, index < total) :
    (naming indices).Suffices total indices.length indices.length ∧
      (naming indices).seen total indices.length = indices := by
  have named (turn : Nat) (within : turn < indices.length) :
      (naming indices).upcoming total turn = indices[turn] := by
    have small := inside indices[turn] (List.getElem_mem within)
    have given : (naming indices).number turn = indices[turn] := by
      simp [naming, within]
    rw [upcoming, show (naming indices).taken + turn = turn from Nat.zero_add turn, given,
      Int.emod_eq_of_lt (by omega) (by omega), Int.toNat_natCast]
  have seen {count : Nat} (short : count ≤ indices.length) :
      (naming indices).seen total count = indices.take count :=
    seen_eq_take nodup named short
  refine ⟨⟨?_, fun fewer below => ?_⟩, ?_⟩
  · simp [seen]
  · rw [seen (Nat.le_of_lt below), List.length_take]
    omega
  · simp [seen]

end Kanban.Draws
