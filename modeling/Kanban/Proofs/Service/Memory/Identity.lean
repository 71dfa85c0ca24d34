import Kanban.Proofs.Service.Memory.Replay
import Kanban.Proofs.Tree.Entries
import Mathlib.Data.List.Perm.Subperm

namespace Kanban

def Tree.Apart (left right : Tree) : Prop :=
  left.same right = false ∧ right.same left = false

theorem Tree.Apart.symm {left right : Tree} (apart : left.Apart right) : right.Apart left :=
  ⟨apart.2, apart.1⟩

theorem Tree.text_apart {text other : String} (different : text ≠ other) :
    (Tree.text text).Apart (.text other) := by
  simp only [Apart, same_text, beq_eq_false_iff_ne]
  exact ⟨different, different.symm⟩

namespace Memory

theorem newId_injective : Function.Injective newId := by
  intro first second same
  have texts : s!"new-{first}" = s!"new-{second}" := Tree.text.inj same
  have digits : Nat.toDigits 10 first = Nat.toDigits 10 second := by
    simpa [Nat.toString_eq_repr, Nat.toList_repr] using congrArg String.toList texts
  calc
    first = Nat.ofDigitChars 10 (Nat.toDigits 10 first) 0 := Nat.ofDigitChars_ten_toDigits.symm
    _ = Nat.ofDigitChars 10 (Nat.toDigits 10 second) 0 := by rw [digits]
    _ = second := Nat.ofDigitChars_ten_toDigits

theorem newId_apart {first second : Nat} (different : first ≠ second) :
    (newId first).Apart (newId second) :=
  Tree.text_apart fun same => different (newId_injective (congrArg Tree.text same))

theorem newId_ne_text {text : String} (start : text.toList.head? ≠ some 'n') (number : Nat) :
    newId number ≠ .text text := by
  intro same
  obtain rfl := Tree.text.inj same
  simp only [String.toList_append] at start
  exact start rfl

def ids (memory : Memory) : List Tree :=
  memory.cards.map (·.id)

/-- No two cards have the same identifier, and none has one that is yet to be given out. -/
structure Distinct (memory : Memory) : Prop where
  apart : memory.ids.Pairwise Tree.Apart
  unissued : ∀ id ∈ memory.ids, ∀ number > memory.created, id.Apart (newId number)

theorem Distinct.cards_apart {memory : Memory} (distinct : memory.Distinct) :
    memory.cards.Pairwise fun card other => card.id.Apart other.id :=
  List.pairwise_map.mp distinct.apart

theorem replaceCard_split {cards : List Card} {id : Tree} {card : Card}
    (found : cards.find? (fun card => card.id.same id) = some card) :
    ∃ before after, cards = before ++ card :: after ∧
      ∀ other, replaceCard cards id other = before ++ other :: after := by
  induction cards with
  | nil => cases found
  | cons first rest ih =>
      rw [List.find?_cons] at found
      split at found
      next same =>
        cases found
        exact ⟨[], rest, rfl, fun other => by simp [replaceCard, same]⟩
      next different =>
        obtain ⟨before, after, split, replaced⟩ := ih found
        refine ⟨first :: before, after, by simp [split], fun other => ?_⟩
        simp [replaceCard, different, replaced other]

@[simp] theorem ids_counted (memory : Memory) : memory.counted.ids = memory.ids := rfl

@[simp] theorem ids_appending (memory : Memory) (card : Card) :
    (memory.appending card).ids = memory.ids ++ [card.id] := by
  simp [ids, appending]

theorem ids_replacing (memory : Memory) {id : Tree} {card other : Card}
    (found : memory.cardNamed? id = some card) (same : other.id = card.id) :
    (memory.replacing id other).ids = memory.ids := by
  obtain ⟨before, after, split, replaced⟩ := replaceCard_split found
  simp only [ids, replacing, replaced other]
  simp [split, same]

theorem Distinct.after {memory : Memory} (distinct : memory.Distinct) (call : BoardCall) :
    (memory.after call).Distinct := by
  have becoming := memory.after_becoming call
  generalize memory.after call = next at becoming ⊢
  cases becoming with
  | read => exact distinct
  | refused => exact ⟨distinct.apart, distinct.unissued⟩
  | @appended draft position =>
      have issued : (memory.drafted draft position).id = newId (memory.created + 1) := rfl
      refine ⟨?_, fun id member number later => ?_⟩
      · rw [ids_appending, List.pairwise_append]
        refine ⟨distinct.apart, List.pairwise_singleton _ _, fun id member new given => ?_⟩
        rw [List.mem_singleton.mp given]
        exact distinct.unissued id member _ (Nat.lt_succ_self _)
      · rw [ids_appending, List.mem_append, List.mem_singleton] at member
        rcases member with member | rfl
        · exact distinct.unissued id member number (Nat.lt_of_succ_lt later)
        · exact newId_apart (Nat.ne_of_lt later)
  | @replaced id column position card landed found =>
      have same : (memory.counted.replacing id
          { card with columnId := column, position := landed }).ids = memory.ids :=
        memory.counted.ids_replacing found rfl
      refine ⟨?_, ?_⟩
      · rw [same]
        exact distinct.apart
      · rw [same]
        exact distinct.unissued

/-- No two cards have the same identifier, and every card is found by its own. -/
structure Identified (memory : Memory) : Prop extends memory.Distinct where
  reflexive : ∀ id ∈ memory.ids, id.same id = true

theorem identified_of_names {memory : Memory} {names : List String}
    (named : memory.ids = names.map Tree.text) (different : names.Nodup)
    (given : ∀ number, newId number ∉ memory.ids) : memory.Identified := by
  have named_text {id : Tree} (member : id ∈ memory.ids) : ∃ name, id = .text name := by
    rw [named] at member
    obtain ⟨name, _, rfl⟩ := List.mem_map.mp member
    exact ⟨name, rfl⟩
  refine ⟨⟨?_, fun id member number _ => ?_⟩, fun id member => ?_⟩
  · rw [named, List.pairwise_map]
    exact different.imp Tree.text_apart
  · obtain ⟨name, rfl⟩ := named_text member
    refine Tree.text_apart ?_
    rintro rfl
    exact given number member
  · obtain ⟨name, rfl⟩ := named_text member
    simp

theorem Identified.after {memory : Memory} (identified : memory.Identified) (call : BoardCall) :
    (memory.after call).Identified := by
  refine ⟨identified.toDistinct.after call, ?_⟩
  have becoming := memory.after_becoming call
  generalize memory.after call = next at becoming ⊢
  cases becoming with
  | read | refused => exact identified.reflexive
  | @appended draft position =>
      intro id member
      rw [ids_appending, List.mem_append, List.mem_singleton] at member
      rcases member with member | rfl
      · exact identified.reflexive id member
      · simp [drafted, newId]
  | @replaced id column position card landed found =>
      have same : (memory.counted.replacing id
          { card with columnId := column, position := landed }).ids = memory.ids :=
        memory.counted.ids_replacing found rfl
      rw [same]
      exact identified.reflexive

theorem Identified.cardNamed? {memory : Memory} {card : Card} (identified : memory.Identified)
    (present : card ∈ memory.cards) : memory.cardNamed? card.id = some card := by
  obtain ⟨before, after, split⟩ := List.append_of_mem present
  have apart := identified.toDistinct.cards_apart
  rw [split, List.pairwise_append] at apart
  have reflexive := identified.reflexive card.id (List.mem_map_of_mem present)
  refine List.find?_eq_some_iff_append.mpr ⟨reflexive, before, after, split, ?_⟩
  intro other member
  simp [(apart.2.2 other member card (by simp)).1]

structure Current (memory : Memory) (board : Tree) (cards : List Card) : Prop where
  apart : cards.Pairwise fun card other => card.id.Apart other.id
  present : ∀ card ∈ cards, card ∈ memory.cardsOf board

variable {memory : Memory} {board : Tree} {cards chosen : List Card}

theorem Current.subperm (current : memory.Current board cards) (subperm : chosen.Subperm cards) :
    memory.Current board chosen where
  apart := by
    obtain ⟨ordered, perm, sublist⟩ := subperm
    exact perm.pairwise (current.apart.sublist sublist) Tree.Apart.symm
  present card member := current.present card (subperm.subset member)

theorem Distinct.cardsOf_current (distinct : memory.Distinct) (board : Tree) :
    memory.Current board (memory.cardsOf board) where
  apart := distinct.cards_apart.filter _
  present _ member := member

theorem Distinct.cardsInColumn_current {column : Column} (distinct : memory.Distinct)
    (known : column ∈ memory.columnsOf board) :
    memory.Current board (memory.cardsInColumn column.id) where
  apart := distinct.cards_apart.filter _
  present card member := by
    obtain ⟨present, same⟩ := List.mem_filter.mp member
    exact List.mem_filter.mpr ⟨present, List.any_eq_true.mpr ⟨column, known, same⟩⟩

end Memory

end Kanban
