import Mathlib.Data.List.Basic

/-!
Stable sorting.  A list in ascending order in which the items of each rank stand as they stood
before is determined by these two properties, so whatever keeps them can be done before sorting as
well as after it.
-/
namespace Kanban.Sorting

variable {α : Type} {atMost : α → α → Bool} {items sorted other : List α}

/-- Whether neither of two items has to come before the other one. -/
def alike (atMost : α → α → Bool) (item other : α) : Bool :=
  atMost item other && atMost other item

structure StableSort (atMost : α → α → Bool) (items sorted : List α) : Prop where
  ascending : sorted.Pairwise fun item later => atMost item later = true
  kept : ∀ item, sorted.filter (alike atMost item) = items.filter (alike atMost item)

theorem alike_self (total : ∀ item other, (atMost item other || atMost other item) = true)
    (item : α) : alike atMost item item = true := by
  simpa [alike] using total item item

namespace StableSort

theorem mem_iff (total : ∀ item other, (atMost item other || atMost other item) = true)
    (stable : StableSort atMost items sorted) {item : α} : item ∈ sorted ↔ item ∈ items := by
  have ranked (list : List α) : item ∈ list ↔ item ∈ list.filter (alike atMost item) := by
    simp [alike_self total item]
  rw [ranked sorted, ranked items, stable.kept]

theorem filter (stable : StableSort atMost items sorted) (keeps : α → Bool) :
    StableSort atMost (items.filter keeps) (sorted.filter keeps) where
  ascending := stable.ascending.filter keeps
  kept item := by
    rw [List.filter_comm, stable.kept, List.filter_comm]

theorem tail {first : α} {rest others : List α} (stable : StableSort atMost items (first :: rest))
    (again : StableSort atMost items (first :: others)) : StableSort atMost others rest where
  ascending := (List.pairwise_cons.mp stable.ascending).2
  kept item := by
    have same := (stable.kept item).trans (again.kept item).symm
    simp only [List.filter_cons] at same
    split at same
    · exact (List.cons.inj same).2
    · exact same

theorem unique (total : ∀ item other, (atMost item other || atMost other item) = true)
    (stable : StableSort atMost items sorted) (again : StableSort atMost items other) :
    sorted = other := by
  induction sorted generalizing items other with
  | nil =>
      cases other with
      | nil => rfl
      | cons first rest =>
          have absent : first ∈ [] ↔ first ∈ items := stable.mem_iff total
          rw [← again.mem_iff total] at absent
          simp at absent
  | cons first rest ih =>
      cases other with
      | nil =>
          have absent : first ∈ [] ↔ first ∈ items := again.mem_iff total
          rw [← stable.mem_iff total] at absent
          simp at absent
      | cons second others =>
          -- Each of the two comes first in one of the lists, so neither has to come before the
          -- other.
          have secondIn : second ∈ first :: rest := by
            rw [stable.mem_iff total, ← again.mem_iff total]
            exact List.mem_cons_self
          have firstIn : first ∈ second :: others := by
            rw [again.mem_iff total, ← stable.mem_iff total]
            exact List.mem_cons_self
          have reflexive (item : α) : atMost item item = true := by
            simpa using total item item
          have forth : atMost first second = true := by
            rcases List.mem_cons.mp secondIn with rfl | later
            · exact reflexive second
            · exact (List.pairwise_cons.mp stable.ascending).1 second later
          have back : atMost second first = true := by
            rcases List.mem_cons.mp firstIn with rfl | later
            · exact reflexive first
            · exact (List.pairwise_cons.mp again.ascending).1 first later
          have ranked : (first :: rest).filter (alike atMost first) =
              (second :: others).filter (alike atMost first) :=
            (stable.kept first).trans (again.kept first).symm
          have same : first = second := by
            simp only [List.filter_cons, alike, reflexive first, forth, back, Bool.and_self,
              if_true] at ranked
            exact (List.cons.inj ranked).1
          subst same
          refine congrArg (first :: ·) (ih (stable.tail again) ?_)
          exact again.tail again

end StableSort

section

variable (trans : ∀ item middle other, atMost item middle = true → atMost middle other = true →
    atMost item other = true)
  (total : ∀ item other, (atMost item other || atMost other item) = true)
include trans total

theorem stableSort_mergeSort (items : List α) :
    StableSort atMost items (items.mergeSort atMost) where
  ascending := List.pairwise_mergeSort trans total items
  kept item := by
    -- The items of one rank are in ascending order as they stand, so sorting leaves them so.
    have level : (items.filter (alike atMost item)).Pairwise
        fun first second => atMost first second = true := by
      rw [List.pairwise_filter]
      refine List.pairwise_of_forall fun first second => ?_
      intro before after
      simp only [alike, Bool.and_eq_true] at before after
      exact trans _ _ _ before.2 after.1
    have still := (List.sublist_mergeSort trans total level List.filter_sublist).filter
      (alike atMost item)
    rw [List.filter_filter] at still
    simp only [Bool.and_self] at still
    have length := ((List.mergeSort_perm items atMost).filter (alike atMost item)).length_eq
    exact (still.eq_of_length length.symm).symm

theorem filter_mergeSort (keeps : α → Bool) (items : List α) :
    (items.mergeSort atMost).filter keeps = (items.filter keeps).mergeSort atMost :=
  ((stableSort_mergeSort trans total items).filter keeps).unique total
    (stableSort_mergeSort trans total (items.filter keeps))

end

end Kanban.Sorting
