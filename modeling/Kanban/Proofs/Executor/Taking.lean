import Kanban.Proofs.Draws.Distinct
import Kanban.Proofs.Executor.Choosing
import Kanban.Proofs.Executor.InMemory
import Kanban.Proofs.Run.Effects

namespace Kanban.Executor

open Draws (distinctFrom? naming)

def StandAt (cards : List Card) (indices : List Nat) (chosen : List Card) : Prop :=
  chosen.map some = indices.map (cards[·]?)

structure Takes (executor : Executor σ) (source : Source) (size : Nat) (pipeline : Pipeline)
    (world : World σ) (chosen : List Card) (rest : Draws) : Prop where
  result : (executor.take source size .random pipeline world).1 = .ok (.holding chosen)
  draws : (executor.take source size .random pipeline world).2.draws = rest

variable {executor : Executor σ} {source : Source} {pipeline : Pipeline}
  {cards : List Card} {indices : List Nat} {size : Nat} {draws rest : Draws}
  {world fetched : World σ}

theorem StandAt.length {chosen : List Card} (stand : StandAt cards indices chosen) :
    chosen.length = indices.length := by
  simpa using congrArg List.length stand

theorem StandAt.unique {chosen other : List Card} (stand : StandAt cards indices chosen)
    (again : StandAt cards indices other) : chosen = other :=
  List.map_injective_iff.mpr (fun _ _ => Option.some.inj) (stand.trans again.symm)

theorem pick_standAt (inside : ∀ index ∈ indices, index < cards.length) :
    StandAt cards indices (pick cards indices) := by
  induction indices with
  | nil => rfl
  | cons index rest ih =>
      have within : index < cards.length := inside index List.mem_cons_self
      have here : cards[index]? = some cards[index] := List.getElem?_eq_getElem within
      have others := ih fun other member => inside other (List.mem_cons_of_mem _ member)
      simp only [StandAt, pick, List.filterMap_cons, List.map_cons, here] at others ⊢
      rw [others]

theorem fetch_undrawn (given : executor.fetch source pipeline world = (.ok cards, fetched))
    (draws : Draws) :
    executor.fetch source pipeline { world with draws } = (.ok cards, { fetched with draws }) := by
  have alike : Run.Alike ⟨fun _ => True, False, False⟩ executor.service executor.service
      (executor.fetch source pipeline)
      ((executor.withService executor.service).fetch source pipeline) :=
    fetch_alike executor executor.service (fun _ _ => trivial) source pipeline
  rw [alike.undrawn id world draws, given]

theorem sourceCards_undrawn (given : executor.fetch source pipeline world = (.ok cards, fetched))
    (draws : Draws) :
    ∃ later, executor.sourceCards source pipeline { world with draws } = (.ok cards, later) ∧
      later.draws = draws :=
  ⟨_, (Run.bind_of_ok (fetch_undrawn given draws)).trans rfl, rfl⟩

theorem takes_drawn (given : executor.fetch source pipeline world = (.ok cards, fetched))
    (wanted : 0 < size) (notAll : size < cards.length)
    (drawn : distinctFrom? cards.length size [] draws = some (indices, rest)) :
    executor.Takes source size pipeline { world with draws } (pick cards indices) rest := by
  obtain ⟨later, sourced, kept⟩ := sourceCards_undrawn given draws
  have distinct : later.draws.distinct cards.length size = (indices, rest) := by
    rw [kept, Draws.distinct, drawn]
    rfl
  have cut : 0 < size ∧ size < cards.length := ⟨wanted, notAll⟩
  constructor
  · rw [take, Run.bind_of_ok sourced]
    simp only [if_pos cut]
    change Except.ok (Pipeline.holding (pick cards (later.draws.distinct ..).1)) = _
    rw [distinct]
  · rw [take, Run.bind_of_ok sourced]
    simp only [if_pos cut]
    exact congrArg Prod.snd distinct

theorem takes_all (given : executor.fetch source pipeline world = (.ok cards, fetched))
    (noneOrAll : size = 0 ∨ cards.length ≤ size) (draws : Draws) :
    executor.Takes source size pipeline { world with draws } cards draws := by
  obtain ⟨later, sourced, kept⟩ := sourceCards_undrawn given draws
  have whole : ¬ (0 < size ∧ size < cards.length) := by omega
  constructor
  · rw [take, Run.bind_of_ok sourced]
    simp only [if_neg whole]
    rfl
  · rw [take, Run.bind_of_ok sourced]
    simp only [if_neg whole]
    exact kept

/-- Whatever indices are drawn: if enough different ones come up, drawing ends with the draw that
completes them, and the cards at these indices are taken.  Any different indices can come up so.
Where no card or all cards are wanted, nothing is drawn. -/
theorem random_take_is_first_distinct (executor : Executor σ) (source : Source) (size : Nat)
    {pipeline : Pipeline} {cards : List Card} {world fetched : World σ}
    (given : executor.fetch source pipeline world = (.ok cards, fetched)) :
    (0 < size → size < cards.length →
      (∀ draws : Draws, draws.Offers cards.length size →
        ∃ count chosen, draws.Suffices cards.length size count ∧
          distinctFrom? cards.length size [] draws =
            some (draws.seen cards.length count, draws.after count) ∧
          executor.Takes source size pipeline { world with draws } chosen (draws.after count) ∧
          StandAt cards (draws.seen cards.length count) chosen ∧
          (draws.seen cards.length count).Nodup ∧ chosen.length = size) ∧
      (∀ indices : List Nat, indices.Nodup → indices.length = size →
        (∀ index ∈ indices, index < cards.length) →
        ∃ draws chosen rest,
          executor.Takes source size pipeline { world with draws } chosen rest ∧
          StandAt cards indices chosen)) ∧
    (size = 0 ∨ cards.length ≤ size → ∀ draws : Draws,
      executor.Takes source size pipeline { world with draws } cards draws) := by
  refine ⟨fun wanted notAll => ⟨fun draws offers => ?_, fun indices nodup long inside => ?_⟩,
    takes_all given⟩
  · have positive : 0 < cards.length := by omega
    obtain ⟨count, ends⟩ := offers.suffices
    have drawn := Draws.distinctFrom?_of_suffices ends
    have stand : StandAt cards (draws.seen cards.length count) _ :=
      pick_standAt fun index member => Draws.seen_lt positive member
    refine ⟨count, _, ends, drawn, takes_drawn given wanted notAll drawn, stand, ?_, ?_⟩
    · exact draws.seen_nodup cards.length count
    · rw [stand.length, ends.enough]
  · subst long
    obtain ⟨ends, named⟩ := Draws.naming_suffices nodup inside
    have drawn := Draws.distinctFrom?_of_suffices ends
    rw [named] at drawn
    exact ⟨naming indices, _, _, takes_drawn given wanted notAll drawn, pick_standAt inside⟩

/-- Two of three cards, where the index of the second one comes up twice before another does. -/
theorem random_take_is_first_distinct_of_three :
    let card (name : String) : Card :=
      { id := .text name, name := .text name, description := .text "", columnId := .text "c1"
        labelIds := [], position := 1.0, url := .text "", shortUrl := .text "" }
    let cards := [card "alpha", card "beta", card "gamma"]
    let executor := inMemory { board := "ENG", tasks := [] } (.text "b1") .standard
    let draws := Draws.naming [1, 1, 2]
    let world : World Memory := { service := {}, draws }
    executor.fetch .pipe (.holding cards) world = (.ok cards, world) ∧ draws.Offers 3 2 ∧
      executor.Takes .pipe 2 (.holding cards) world [card "beta", card "gamma"]
        (draws.after 3) := by
  intro card cards executor draws world
  have given : executor.fetch .pipe (.holding cards) world = (.ok cards, world) := rfl
  have offers : draws.Offers 3 2 := ⟨[1, 2], by decide, rfl, by
    rintro index (_ | ⟨_, _ | ⟨_, ⟨⟩⟩⟩)
    · exact ⟨0, by decide⟩
    · exact ⟨2, by decide⟩⟩
  have cut := (random_take_is_first_distinct executor .pipe 2 given).1 (by decide) (by decide)
  obtain ⟨count, chosen, ends, _, takes, stand, _⟩ := cut.1 draws offers
  have atThree : draws.Suffices 3 2 3 := ⟨by decide, by decide⟩
  have third : draws.seen 3 3 = [1, 2] := by decide
  have standing : StandAt cards [1, 2] [card "beta", card "gamma"] := rfl
  rw [show count = 3 from ends.unique atThree] at takes stand
  rw [show draws.seen cards.length 3 = [1, 2] from third] at stand
  rw [stand.unique standing] at takes
  exact ⟨given, offers, takes⟩

end Kanban.Executor
