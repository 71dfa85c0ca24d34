import Kanban.Executor
import Kanban.Proofs.Draws.Guarded

/-!
Executors that look before they leap: where they draw or count off places, they are stopped by a
misuse if there is nothing to draw from or no such place.  They do what executors do, so no executor
ever draws from an empty range or looks beyond the end of a list.
-/
namespace Kanban

namespace Run

def drawGuarded (take : Draws → Option (α × Draws)) : Run σ α :=
  fun world =>
    match take world.draws with
    | some (value, rest) => (.ok value, { world with draws := rest })
    | none => (.error (.misuse .noSuchPlace), world)

def present : Option α → Run σ α
  | some value => pure value
  | none => misuse .noSuchPlace

theorem drawGuarded_some {guarded : Draws → Option (α × Draws)} {take : Draws → α × Draws}
    (granted : ∀ draws, guarded draws = some (take draws)) :
    (drawGuarded guarded : Run σ α) = draw take := by
  funext world
  simp only [drawGuarded, granted]
  rfl

theorem draw_bind_congr {take : Draws → α × Draws} {next follow : α → Run σ β}
    (same : ∀ draws, next (take draws).1 = follow (take draws).1) :
    (draw take >>= next) = (draw take >>= follow) := by
  funext world
  rw [bind_of_ok (draw_apply take world), bind_of_ok (draw_apply take world), same]

end Run

def Landing.inGap? (middle : α → α → α) (positions : List α) (slot : Nat) : Option (Landing α) :=
  if slot = 0 then
    some top
  else if slot = positions.length then
    some bottom
  else do
    let before ← positions[slot - 1]?
    let after ← positions[slot]?
    return .at (middle before after)

theorem Landing.inGap?_inside (middle : α → α → α) {positions : List α} {slot : Nat}
    (inside : slot ≤ positions.length) :
    inGap? middle positions slot = some (inGap middle positions slot) := by
  unfold inGap? inGap
  split
  · rfl
  · split
    · rfl
    · have here : slot < positions.length := by omega
      have before : slot - 1 < positions.length := by omega
      simp [here, before]

namespace Executor

def pick? (cards : List Card) (indices : List Nat) : Option (List Card) :=
  indices.mapM (cards[·]?)

theorem pick?_inside {cards : List Card} {indices : List Nat}
    (inside : ∀ index ∈ indices, index < cards.length) :
    pick? cards indices = some (pick cards indices) := by
  induction indices with
  | nil => rfl
  | cons index rest ih =>
      have here : index < cards.length := inside index List.mem_cons_self
      have onward := ih fun other member => inside other (List.mem_cons_of_mem _ member)
      simp only [pick?] at onward
      simp [pick?, pick, List.mapM_cons, here, onward]

variable (executor : Executor σ)

def landingGuarded (place : Place) (columnId : Tree) : Run σ (Landing Float) :=
  match place with
  | .top => return .top
  | .bottom => return .bottom
  | .random => do
      let cards ← Run.ask (executor.service.cardsIn columnId)
      let positions := ascending (cards.map (·.position))
      let slot ← Run.drawGuarded fun draws => draws.below? (positions.length + 1)
      Run.present (Landing.inGap? midpoint positions slot)

def takeGuarded (source : Source) (size : Nat) (place : Place) (pipeline : Pipeline) :
    Run σ Pipeline := do
  let cards ← executor.sourceCards source pipeline
  let total := cards.length
  if 0 < size ∧ size < total then
    Run.debug s!"Cutting {total} cards to {size} from {place.word}"
    match place with
    | .top => return .holding (cards.take size)
    | .bottom => return .holding (cards.drop (total - size))
    | .random => do
        let indices ← Run.drawGuarded fun draws => draws.distinctGuarded? total size
        return .holding (← Run.present (pick? cards indices))
  else
    return .holding cards

def orderGuarded (kind : OrderKind) (source : Source) (pipeline : Pipeline) : Run σ Pipeline := do
  let cards ← executor.sourceCards source pipeline
  Run.debug s!"Ordering {cards.length} cards by {kind.word}"
  match kind with
  | .shuffle =>
      let shuffled ← Run.drawGuarded fun draws => draws.shuffleGuarded? (cards.length - 1) cards
      return .holding shuffled
  | .sort => return .holding (← Run.ofExcept .misuse (sortByName cards))
  | .reverse => return .holding cards.reverse

theorem landingGuarded_eq (place : Place) (columnId : Tree) :
    executor.landingGuarded place columnId = executor.landing place columnId := by
  cases place with
  | top | bottom => rfl
  | random =>
      unfold landingGuarded landing
      refine bind_congr fun cards => ?_
      dsimp only
      generalize ascending (cards.map (·.position)) = positions
      have positive : 0 < positions.length + 1 := Nat.succ_pos _
      rw [Run.drawGuarded_some fun draws => draws.below?_positive positive]
      refine Run.draw_bind_congr fun draws => ?_
      have inside := draws.below_lt positive
      rw [Landing.inGap?_inside midpoint (Nat.le_of_lt_succ inside)]
      rfl

theorem takeGuarded_eq (source : Source) (size : Nat) (place : Place) (pipeline : Pipeline) :
    executor.takeGuarded source size place pipeline = executor.take source size place pipeline := by
  unfold takeGuarded take
  refine bind_congr fun cards => ?_
  dsimp only
  split
  next cut =>
    refine bind_congr fun _ => ?_
    cases place with
    | top | bottom => rfl
    | random =>
        have positive : 0 < cards.length := by omega
        dsimp only
        rw [Run.drawGuarded_some fun draws => Draws.distinctGuarded?_positive positive size draws]
        refine Run.draw_bind_congr fun draws => ?_
        have inside (index : Nat) (member : index ∈ (draws.distinct cards.length size).1) :
            index < cards.length :=
          List.mem_range.mp ((Draws.distinct_subperm positive size).subset member)
        rw [pick?_inside inside]
        rfl
  next => rfl

theorem orderGuarded_eq (kind : OrderKind) (source : Source) (pipeline : Pipeline) :
    executor.orderGuarded kind source pipeline = executor.order kind source pipeline := by
  unfold orderGuarded order
  refine bind_congr fun cards => bind_congr fun _ => ?_
  cases kind with
  | sort | reverse => rfl
  | shuffle =>
      dsimp only
      rw [Run.drawGuarded_some fun draws => Draws.shuffleGuarded?_inside (Nat.le_refl _) draws]
      rfl

end Executor

end Kanban
