import Kanban.Proofs.Executor.Bringing
import Kanban.Proofs.Executor.InMemory
import Kanban.Proofs.Service.Memory.FailFast
import Kanban.Proofs.Service.Memory.Identity
import Kanban.Proofs.Service.Memory.Named
import Mathlib.Data.List.Forall2

namespace Kanban

namespace Memory

structure Known (memory : Memory) (cards : List Card) : Prop where
  distinct : cards.Nodup
  found : ∀ card ∈ cards, memory.cardNamed? card.id = some card

def Up (memory : Memory) (count : Nat) : Prop :=
  ∀ ahead < count, memory.failAt ≠ some ((memory.writes + ahead + 1 : Nat) : Int)

structure Moved (column : Tree) (cards : List Card) (memory later : Memory) : Prop where
  brought : ∀ card ∈ cards, ∃ position,
    later.cardNamed? card.id = some { card with columnId := column, position }
  found : ∀ id card, card ∉ cards → memory.cardNamed? id = some card →
    later.cardNamed? id = some card
  others : ∀ (index : Nat) (card : Card), card ∉ cards → memory.cards[index]? = some card →
    later.cards[index]? = some card
  count : later.cards.length = memory.cards.length

/-- What a copy of a card in a column has from it.  A card without an identifier cannot be named as
the source of one. -/
structure IsCopy (column : Tree) (card copy : Card) : Prop where
  name : copy.name = card.name
  column : copy.columnId = column
  labels : card.id ≠ .null → copy.labelIds = card.labelIds

/-- Copies of cards have been added below all cards that there were. -/
def Copied (column : Tree) (cards : List Card) (memory later : Memory) : Prop :=
  ∃ copies, later.cards = memory.cards ++ copies ∧ List.Forall₂ (IsCopy column) cards copies

variable {memory between later : Memory} {column id : Tree} {card other moved : Card}
  {cards more : List Card}

theorem find?_replaceCard (found : cards.find? (fun card => card.id.same id) = some card)
    (same : moved.id = card.id) :
    (replaceCard cards id moved).find? (fun card => card.id.same id) = some moved := by
  induction cards with
  | nil => cases found
  | cons first rest ih =>
      rw [List.find?_cons] at found
      split at found
      next named =>
        cases found
        simp [replaceCard, named, same]
      next apart => simp [replaceCard, apart, ih found]

theorem find?_replaceCard_of_ne {named : Tree}
    (found : cards.find? (fun card => card.id.same id) = some card) (same : moved.id = card.id)
    (different : other ≠ card)
    (there : cards.find? (fun card => card.id.same named) = some other) :
    (replaceCard cards id moved).find? (fun card => card.id.same named) = some other := by
  obtain ⟨before, after, rfl, replaced⟩ := replaceCard_split found
  simp only [replaced, List.find?_append, List.find?_cons, same] at there ⊢
  generalize before.find? (fun card => card.id.same named) = first at there ⊢
  cases first with
  | some one => exact there
  | none =>
      rw [Option.none_or] at there ⊢
      split at there
      next =>
        cases there
        exact absurd rfl different
      next => exact there

theorem getElem?_replaceCard_of_ne {index : Nat}
    (found : cards.find? (fun card => card.id.same id) = some card) (different : other ≠ card)
    (there : cards[index]? = some other) : (replaceCard cards id moved)[index]? = some other := by
  obtain ⟨before, after, rfl, replaced⟩ := replaceCard_split found
  simp only [replaced, List.getElem?_append, List.getElem?_cons] at there ⊢
  split at there
  next => simp_all
  next =>
    split at there
    next =>
      cases there
      exact absurd rfl different
    next => simp_all

theorem length_replaceCard : (replaceCard cards id moved).length = cards.length := by
  induction cards with
  | nil => rfl
  | cons first rest ih =>
      rw [replaceCard]
      split
      · rfl
      · simp [ih]

theorem Moved.single {position : Float} (found : memory.cardNamed? card.id = some card) :
    Moved column [card] memory
      (memory.counted.replacing card.id { card with columnId := column, position }) where
  brought other member := by
    obtain rfl := List.mem_singleton.mp member
    exact ⟨position, find?_replaceCard found rfl⟩
  found id other absent there :=
    find?_replaceCard_of_ne found rfl (List.ne_of_not_mem_cons absent) there
  others index other absent there :=
    getElem?_replaceCard_of_ne found (List.ne_of_not_mem_cons absent) there
  count := length_replaceCard

theorem Moved.append (known : memory.Known (cards ++ more))
    (first : Moved column cards memory between) (second : Moved column more between later) :
    Moved column (cards ++ more) memory later where
  brought card member := by
    rcases List.mem_append.mp member with here | there
    · obtain ⟨position, brought⟩ := first.brought card here
      refine ⟨position, second.found _ _ (fun again => ?_) brought⟩
      -- What it has become is found by the identifier that it had, so it was the same all along.
      have twice := (known.found _ (List.mem_append_right _ again)).symm.trans
        (known.found card (List.mem_append_left _ here))
      rw [Option.some.inj twice] at again
      exact (List.nodup_append.mp known.distinct).2.2 card here card again rfl
    · exact second.brought card there
  found id card absent there := by
    rw [List.mem_append, not_or] at absent
    exact second.found id card absent.2 (first.found id card absent.1 there)
  others index card absent there := by
    rw [List.mem_append, not_or] at absent
    exact second.others index card absent.2 (first.others index card absent.1 there)
  count := second.count.trans first.count

theorem Moved.known (known : memory.Known (cards ++ more))
    (moved : Moved column cards memory between) : between.Known more := by
  obtain ⟨_, distinct, disjoint⟩ := List.nodup_append.mp known.distinct
  refine ⟨distinct, fun card member => ?_⟩
  refine moved.found _ _ (fun here => disjoint card here card member rfl) ?_
  exact known.found card (List.mem_append_right _ member)

theorem Copied.append (first : Copied column cards memory between)
    (second : Copied column more between later) : Copied column (cards ++ more) memory later := by
  obtain ⟨copies, added, areCopies⟩ := first
  obtain ⟨others, addedOn, areCopiesOn⟩ := second
  refine ⟨copies ++ others, ?_, List.rel_append areCopies areCopiesOn⟩
  rw [addedOn, added, List.append_assoc]

theorem Copied.known (known : memory.Known (cards ++ more))
    (copied : Copied column cards memory between) : between.Known more := by
  obtain ⟨copies, added, _⟩ := copied
  refine ⟨known.distinct.of_append_right, fun card member => ?_⟩
  have there := known.found card (List.mem_append_right _ member)
  rw [cardNamed?] at there
  rw [cardNamed?, added, List.find?_append, there, Option.some_or]

theorem Up.isDown {count : Nat} (up : memory.Up (count + 1)) : memory.isDown = false :=
  beq_eq_false_iff_ne.mpr (up 0 (Nat.succ_pos count))

theorem Up.after {count : Nat} {call : BoardCall} (up : memory.Up (count + 1))
    (write : call.isWrite = true) : (memory.after call).Up count := by
  obtain ⟨_, _, called⟩ := memory.after_frame call
  rw [called, write]
  intro ahead less
  rw [Bool.toNat_true, Nat.add_right_comm memory.writes, Nat.add_assoc memory.writes ahead]
  exact up (ahead + 1) (Nat.succ_lt_succ less)

end Memory

namespace Errand

def Leaves (errand : Errand) (column : Tree) (cards : List Card) (memory later : Memory) : Prop :=
  match errand with
  | copying => Memory.Copied column cards memory later
  | moving => Memory.Moved column cards memory later

variable {errand : Errand} {column : Tree} {card : Card} {cards more : List Card}
  {memory between later : Memory}

theorem Leaves.append (known : memory.Known (cards ++ more))
    (first : errand.Leaves column cards memory between)
    (second : errand.Leaves column more between later) :
    errand.Leaves column (cards ++ more) memory later := by
  cases errand with
  | copying => exact Memory.Copied.append first second
  | moving => exact Memory.Moved.append known first second

theorem Leaves.known (known : memory.Known (cards ++ more))
    (leaves : errand.Leaves column cards memory between) : between.Known more := by
  cases errand with
  | copying => exact Memory.Copied.known known leaves
  | moving => exact Memory.Moved.known known leaves

end Errand

namespace Executor

section

variable (program : Program) (board : Tree) (limit : DepthLimit)

end

end Executor

end Kanban
