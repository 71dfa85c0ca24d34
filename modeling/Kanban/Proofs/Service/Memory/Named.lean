import Kanban.Executor
import Kanban.Proofs.Run.Safe
import Kanban.Proofs.Service.Memory.Replay

namespace Kanban.Memory

def CardsNamed (cards : List Card) : Prop :=
  ∀ card ∈ cards, card.name.isText

structure Named (memory : Memory) : Prop where
  cards : CardsNamed memory.cards
  labels : ∀ row ∈ memory.labels, ∀ label ∈ row.2, label.name.isText

theorem mem_rowOf {table : List (Tree × List α)} {id : Tree} {item : α}
    (member : item ∈ rowOf table id) : ∃ row ∈ table, item ∈ row.2 := by
  unfold rowOf at member
  rcases found : table.reverse.find? (fun row => row.1.same id) with _ | row
  · simp [found] at member
  · rw [found] at member
    exact ⟨row, List.mem_reverse.mp (List.mem_of_find?_eq_some found), member⟩

theorem mem_replaceCard {cards : List Card} {id : Tree} {replacement card : Card}
    (member : card ∈ replaceCard cards id replacement) : card = replacement ∨ card ∈ cards := by
  induction cards with
  | nil => cases member
  | cons first rest ih =>
      rw [replaceCard] at member
      split at member
      · exact (List.mem_cons.mp member).imp_right (List.mem_cons_of_mem _)
      · rcases List.mem_cons.mp member with rfl | later
        · exact Or.inr List.mem_cons_self
        · exact (ih later).imp_right (List.mem_cons_of_mem _)

namespace Named

variable {memory : Memory}

theorem cardsOf (named : memory.Named) (board : Tree) : CardsNamed (memory.cardsOf board) :=
  fun card member => named.cards card (List.mem_filter.mp member).1

theorem cardsInColumn (named : memory.Named) (column : Tree) :
    CardsNamed (memory.cardsInColumn column) :=
  fun card member => named.cards card (List.mem_filter.mp member).1

theorem labelsOf (named : memory.Named) (board : Tree) :
    ∀ label ∈ rowOf memory.labels board, label.name.isText := by
  intro label member
  obtain ⟨row, present, inside⟩ := mem_rowOf member
  exact named.labels row present label inside

theorem after (named : memory.Named) {call : BoardCall}
    (drafts : ∀ draft, call = .create draft → draft.name.isText) : (memory.after call).Named := by
  have becoming := memory.after_becoming call
  generalize memory.after call = next at becoming ⊢
  cases becoming with
  | read | refused => exact ⟨named.cards, named.labels⟩
  | @appended draft position =>
      refine ⟨fun card member => ?_, named.labels⟩
      rcases List.mem_append.mp member with old | new
      · exact named.cards card old
      · rw [List.mem_singleton.mp new]
        exact drafts draft rfl
  | @replaced id column position card landed found =>
      refine ⟨fun other member => ?_, named.labels⟩
      rcases mem_replaceCard member with rfl | old
      · exact named.cards card (List.mem_of_find?_eq_some found)
      · exact named.cards other old

end Named

theorem landing_position (memory : Memory) (column : Tree) (place : Landing Float) :
    ∃ position, memory.landing column (Executor.position place) = .ok position := by
  cases place with
  | top | bottom | «at» => exact ⟨_, rfl⟩

theorem ask_safe {good : α → Prop} (call : Service.Call α)
    (drafts : ∀ draft, call.recorded = .create draft → draft.name.isText)
    (answers : ∀ memory : Memory, memory.Named →
      Run.SafeEnd Failure.IsOfRun good (service.answer call memory).result) :
    Run.Safe Named Failure.IsOfRun good (Run.ask (service.answer call)) := by
  refine .ask fun memory named => ⟨answers memory named, ?_⟩
  rw [(answer_state call memory).1]
  exact named.after drafts

theorem create_safe {draft : Draft} {place : Landing Float} (named : draft.name.isText)
    (placed : draft.position = Executor.position place) :
    Run.Safe Named Failure.IsOfRun (fun _ => True) (Run.ask (service.create draft)) := by
  refine ask_safe (.create draft) ?_ fun memory _ => ?_
  · rintro _ ⟨⟩
    exact named
  · have creating := create_creating draft memory
    change Run.SafeEnd Failure.IsOfRun _ (create draft memory).result
    generalize create draft memory = reply at creating ⊢
    cases creating with
    | down => exact ⟨_, rfl⟩
    | misplaced _ refused =>
        obtain ⟨position, landed⟩ := memory.landing_position draft.column place
        rw [placed, landed] at refused
        cases refused
    | appended => trivial

theorem move_safe (id column : Tree) (place : Landing Float) :
    Run.Safe Named Failure.IsOfRun (fun _ => True)
      (Run.ask (service.move id column (Executor.position place))) := by
  refine ask_safe (.move id column (Executor.position place)) nofun fun memory _ => ?_
  have moving := move_moving id column (Executor.position place) memory
  change Run.SafeEnd Failure.IsOfRun _ (move id column (Executor.position place) memory).result
  generalize move id column (Executor.position place) memory = reply at moving ⊢
  cases moving with
  | down | unknown => exact ⟨_, rfl⟩
  | misplaced _ _ refused =>
      obtain ⟨position, landed⟩ := memory.landing_position column place
      rw [landed] at refused
      cases refused
  | replaced => trivial

end Kanban.Memory
