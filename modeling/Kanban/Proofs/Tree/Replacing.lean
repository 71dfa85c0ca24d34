import Kanban.Tree
import Mathlib.Data.List.Forall2
import Mathlib.Data.Option.Basic

namespace Kanban.Tree

/-- Entries of one key, with values that are related. -/
inductive Entrywise (Related : Tree → Tree → Prop) : Tree × Tree → Tree × Tree → Prop where
  | entry {key value other : Tree} :
      Related value other → Entrywise Related (key, value) (key, other)

/-- A tree and what it becomes if some of its values are swapped for others. -/
inductive Replaces (Swaps : Tree → Tree → Prop) : Tree → Tree → Prop where
  | kept (tree : Tree) : Replaces Swaps tree tree
  | swapped {tree other : Tree} : Swaps tree other → Replaces Swaps tree other
  | list {items others : List Tree} :
      List.Forall₂ (Replaces Swaps) items others → Replaces Swaps (.list items) (.list others)
  | map {entries others : List (Tree × Tree)} :
      List.Forall₂ (Entrywise (Replaces Swaps)) entries others →
        Replaces Swaps (.map entries) (.map others)

/-- What may be swapped for what: nothing that has fields or is null, and for nothing that is null
or harder to write out. -/
structure IsSwap (Swaps : Tree → Tree → Prop) : Prop where
  notMap {tree other : Tree} : Swaps tree other → ∀ entries, tree ≠ .map entries
  notNull {tree other : Tree} : Swaps tree other → tree ≠ .null ∧ other ≠ .null
  writable {tree other : Tree} :
    Swaps tree other → tree.isWritable = true → other.isWritable = true

section

variable {Related Swaps : Tree → Tree → Prop} {entries others : List (Tree × Tree)}

theorem entry?_entrywise (related : List.Forall₂ (Entrywise Related) entries others)
    (name : String) : Option.Rel Related (Tree.entry? entries name) (Tree.entry? others name) := by
  induction related with
  | nil => exact .none
  | cons first _ ih =>
      obtain ⟨first⟩ := first
      simp only [Tree.entry?, List.find?_cons]
      split
      next => exact .some first
      next => exact ih

theorem putEntry_entrywise (related : List.Forall₂ (Entrywise Related) entries others) (key : Tree)
    {value other : Tree} (values : Related value other) :
    List.Forall₂ (Entrywise Related) (putEntry entries key value) (putEntry others key other) := by
  induction related with
  | nil => exact .cons (.entry values) .nil
  | cons first later ih =>
      obtain ⟨first⟩ := first
      simp only [putEntry]
      split
      next => exact .cons (.entry values) later
      next => exact .cons (.entry first) ih

theorem foldl_putEntry_entrywise (related : List.Forall₂ (Entrywise Related) entries others)
    {built made : List (Tree × Tree)} (started : List.Forall₂ (Entrywise Related) built made) :
    List.Forall₂ (Entrywise Related)
      (entries.foldl (fun built entry => putEntry built entry.1 entry.2) built)
      (others.foldl (fun built entry => putEntry built entry.1 entry.2) made) := by
  induction related generalizing built made with
  | nil => exact started
  | cons first _ ih =>
      obtain ⟨first⟩ := first
      exact ih (putEntry_entrywise started _ first)

theorem ofEntries_entrywise (related : List.Forall₂ (Entrywise Related) entries others) :
    List.Forall₂ (Entrywise Related) (ofEntries entries) (ofEntries others) :=
  foldl_putEntry_entrywise related .nil

theorem Replaces.null_iff (swap : IsSwap Swaps) {tree other : Tree}
    (replaced : Replaces Swaps tree other) : tree = .null ↔ other = .null := by
  cases replaced with
  | kept => rfl
  | swapped swaps => exact iff_of_false (swap.notNull swaps).1 (swap.notNull swaps).2
  | list | map => exact iff_of_false nofun nofun

theorem isWritable_list (items : List Tree) : isWritable (.list items) = items.all isWritable := by
  rw [isWritable]
  induction items with
  | nil => rfl
  | cons item rest ih => rw [itemsAreWritable, ih, List.all_cons]

theorem isWritable_map (entries : List (Tree × Tree)) :
    isWritable (.map entries) =
      entries.all fun entry => entry.1.isWritable && entry.2.isWritable := by
  rw [isWritable]
  induction entries with
  | nil => rfl
  | cons entry rest ih => rw [entriesAreWritable, ih, List.all_cons]

theorem isFinite_list (items : List Tree) : isFinite (.list items) = items.all isFinite := by
  rw [isFinite]
  induction items with
  | nil => rfl
  | cons item rest ih => rw [itemsAreFinite, ih, List.all_cons]

theorem isFinite_map (entries : List (Tree × Tree)) :
    isFinite (.map entries) = entries.all fun entry => entry.1.isFinite && entry.2.isFinite := by
  rw [isFinite]
  induction entries with
  | nil => rfl
  | cons entry rest ih => rw [entriesAreFinite, ih, List.all_cons]

/-- What holds of a list or a mapping if it holds of all that is in it, and is kept by a swap. -/
structure IsKept (Swaps : Tree → Tree → Prop) (holds : Tree → Bool) : Prop where
  list (items : List Tree) : holds (.list items) = items.all holds
  map (entries : List (Tree × Tree)) :
    holds (.map entries) = entries.all fun entry => holds entry.1 && holds entry.2
  swapped {tree other : Tree} : Swaps tree other → holds tree = true → holds other = true

mutual

theorem holds_of_replaces {holds : Tree → Bool} (kept : IsKept Swaps holds) (tree : Tree)
    {other : Tree} (replaced : Replaces Swaps tree other) (here : holds tree = true) :
    holds other = true := by
  cases replaced with
  | kept => exact here
  | swapped swaps => exact kept.swapped swaps here
  | @list items others replaced =>
      rw [kept.list] at here ⊢
      exact items_of_replaces kept items replaced here
  | @map entries others replaced =>
      rw [kept.map] at here ⊢
      exact entries_of_replaces kept entries replaced here

theorem items_of_replaces {holds : Tree → Bool} (kept : IsKept Swaps holds) (items : List Tree)
    {others : List Tree} (replaced : List.Forall₂ (Replaces Swaps) items others)
    (here : items.all holds = true) : others.all holds = true := by
  cases replaced with
  | nil => rfl
  | @cons item other rest others first later =>
      rw [List.all_cons, Bool.and_eq_true] at here ⊢
      exact ⟨holds_of_replaces kept item first here.1, items_of_replaces kept rest later here.2⟩

theorem entries_of_replaces {holds : Tree → Bool} (kept : IsKept Swaps holds)
    (entries : List (Tree × Tree)) {others : List (Tree × Tree)}
    (replaced : List.Forall₂ (Entrywise (Replaces Swaps)) entries others)
    (here : (entries.all fun entry => holds entry.1 && holds entry.2) = true) :
    (others.all fun entry => holds entry.1 && holds entry.2) = true := by
  match entries, replaced with
  | [], .nil => rfl
  | (key, value) :: rest, .cons (.entry first) later =>
      simp only [List.all_cons, Bool.and_eq_true] at here ⊢
      exact ⟨⟨here.1.1, holds_of_replaces kept value first here.1.2⟩,
        entries_of_replaces kept rest later here.2⟩

end

theorem isWritable_of_replaces (swap : IsSwap Swaps) {tree other : Tree}
    (replaced : Replaces Swaps tree other) (writable : tree.isWritable = true) :
    other.isWritable = true :=
  holds_of_replaces ⟨isWritable_list, isWritable_map, swap.writable⟩ tree replaced writable

theorem isFinite_of_replaces {tree other : Tree} (replaced : Replaces Swaps tree other)
    (ends : ∀ tree other, Swaps tree other → other.isFinite = true)
    (finite : tree.isFinite = true) : other.isFinite = true := by
  have kept : IsKept Swaps Tree.isFinite :=
    ⟨isFinite_list, isFinite_map, fun swaps _ => ends _ _ swaps⟩
  exact holds_of_replaces kept tree replaced finite

end

end Kanban.Tree
