import Mathlib.Data.List.Induction
import Mathlib.Data.List.Nodup

namespace Kanban.Lists

variable {α : Type} [BEq α] [LawfulBEq α]

theorem eraseDups_snoc (items : List α) (item : α) :
    (items ++ [item]).eraseDups =
      if item ∈ items then items.eraseDups else items.eraseDups ++ [item] := by
  rw [List.eraseDups_append]
  split
  next old => simp [List.removeAll, old]
  next new => simp [List.removeAll, new, List.eraseDups_cons]

theorem nodup_eraseDups (items : List α) : items.eraseDups.Nodup := by
  induction items using List.reverseRecOn with
  | nil => exact List.nodup_nil
  | append_singleton items item ih =>
      rw [eraseDups_snoc]
      split
      next => exact ih
      next new =>
        rw [← List.concat_eq_append]
        exact ih.concat (mt List.mem_eraseDups.mp new)

theorem eraseDups_filter (keeps : α → Bool) (items : List α) :
    (items.filter keeps).eraseDups = items.eraseDups.filter keeps := by
  induction items using List.reverseRecOn with
  | nil => rfl
  | append_singleton items item ih =>
      rw [List.filter_append, eraseDups_snoc]
      cases kept : keeps item with
      | false =>
          rw [List.filter_cons_of_neg (by simp [kept]), List.filter_nil, List.append_nil, ih]
          split
          next => rfl
          next => simp [kept]
      | true =>
          have same : item ∈ items.filter keeps ↔ item ∈ items := by
            rw [List.mem_filter]
            exact and_iff_left kept
          rw [List.filter_cons_of_pos kept, List.filter_nil, eraseDups_snoc, ih]
          simp only [same]
          split
          next => rfl
          next => simp [kept]

end Kanban.Lists
