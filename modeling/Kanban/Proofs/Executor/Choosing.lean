import Kanban.Proofs.Draws.Rearranging
import Kanban.Proofs.Executor.Alike
import Kanban.Proofs.Sorting.Rearranging

namespace Kanban.Executor

variable {executor : Executor σ} {pipeline result : Pipeline} {world later : World σ}

def Chooses (executor : Executor σ) (source : Source) (pipeline : Pipeline) (world : World σ)
    (result : Pipeline) : Prop :=
  ∃ cards chosen between, executor.fetch source pipeline world = (.ok cards, between) ∧
    chosen.Subperm cards ∧ result = .holding chosen

@[simp] theorem pick_range (cards : List Card) : pick cards (List.range cards.length) = cards := by
  induction cards with
  | nil => rfl
  | cons card rest ih =>
      rw [List.length_cons, List.range_succ_eq_map]
      simp only [pick, List.filterMap_cons, List.getElem?_cons_zero, List.filterMap_map]
      exact congrArg (card :: ·) ih

theorem pick_subperm {cards : List Card} {indices : List Nat}
    (different : indices.Subperm (List.range cards.length)) :
    (pick cards indices).Subperm cards := by
  obtain ⟨ascending, perm, sublist⟩ := different
  refine ⟨pick cards ascending, perm.filterMap _, ?_⟩
  have picked : (pick cards ascending).Sublist (pick cards (List.range cards.length)) :=
    sublist.filterMap _
  rwa [pick_range] at picked

theorem sortByName_perm {cards sorted : List Card} (done : sortByName cards = .ok sorted) :
    sorted.Perm cards := by
  unfold sortByName at done
  split at done
  next =>
    cases done
    exact List.mergeSort_perm cards nameAtMost
  next => exact Sorting.sort_gives _ cards sorted done

theorem keepFolded_sublist {wanted : String} {cards kept : List Card}
    (done : keepFolded wanted cards = .ok kept) : kept.Sublist cards := by
  induction cards generalizing kept with
  | nil =>
      cases done
      exact .slnil
  | cons card rest ih =>
      unfold keepFolded at done
      cases folded : Service.folded card.name with
      | error cause => simp [folded, bind, Except.bind] at done
      | ok name =>
          cases others : keepFolded wanted rest with
          | error cause => simp [folded, others, bind, Except.bind] at done
          | ok more =>
              simp only [folded, others, bind, Except.bind, pure, Except.pure,
                Except.ok.injEq] at done
              subst done
              split
              next => exact (ih others).cons_cons card
              next => exact (ih others).cons card

theorem keepNamed_sublist {value : String} {caseSensitive : Bool} {cards kept : List Card}
    (done : keepNamed value caseSensitive cards = .ok kept) : kept.Sublist cards := by
  unfold keepNamed at done
  split at done
  next =>
    cases done
    exact List.filter_sublist
  next => exact keepFolded_sublist done

theorem select_sublist {criterion : FilterBy} {value : String} {caseSensitive : Bool}
    {cards kept : List Card}
    (done : executor.select criterion value caseSensitive cards world = (.ok kept, later)) :
    kept.Sublist cards := by
  cases criterion with
  | name => exact keepNamed_sublist (Run.ofExcept_returned done).1
  | label =>
      obtain ⟨found, between, _, done⟩ := Run.bind_ok done
      cases found with
      | none => cases done
      | some label =>
          cases done
          exact List.filter_sublist

theorem sourceCards_fetched {source : Source} {cards : List Card}
    (done : executor.sourceCards source pipeline world = (.ok cards, later)) :
    ∃ between, executor.fetch source pipeline world = (.ok cards, between) := by
  obtain ⟨fetched, between, fetch, done⟩ := Run.bind_ok done
  cases done
  exact ⟨between, fetch⟩

theorem take_chooses {source : Source} {size : Nat} {place : Place}
    (done : executor.take source size place pipeline world = (.ok result, later)) :
    executor.Chooses source pipeline world result := by
  obtain ⟨cards, sourced, source, done⟩ := Run.bind_ok done
  obtain ⟨between, fetched⟩ := sourceCards_fetched source
  dsimp only at done
  split at done
  next cut =>
    obtain ⟨_, logged, _, done⟩ := Run.bind_ok done
    cases place with
    | top =>
        cases done
        exact ⟨cards, _, between, fetched, (List.take_sublist ..).subperm, rfl⟩
    | bottom =>
        cases done
        exact ⟨cards, _, between, fetched, (List.drop_sublist ..).subperm, rfl⟩
    | random =>
        cases done
        have positive : 0 < cards.length := by omega
        exact ⟨cards, _, between, fetched, pick_subperm (Draws.distinct_subperm positive _), rfl⟩
  next =>
    cases done
    exact ⟨cards, cards, between, fetched, .refl _, rfl⟩

theorem order_chooses {kind : OrderKind} {source : Source}
    (done : executor.order kind source pipeline world = (.ok result, later)) :
    executor.Chooses source pipeline world result := by
  obtain ⟨cards, sourced, source, done⟩ := Run.bind_ok done
  obtain ⟨between, fetched⟩ := sourceCards_fetched source
  obtain ⟨_, logged, _, done⟩ := Run.bind_ok done
  cases kind with
  | shuffle =>
      cases done
      exact ⟨cards, _, between, fetched, (Draws.shuffle_perm _ cards).subperm, rfl⟩
  | sort =>
      obtain ⟨sorted, _, sort, done⟩ := Run.bind_ok done
      cases done
      have named := (Run.ofExcept_returned sort).1
      exact ⟨cards, _, between, fetched, (sortByName_perm named).subperm, rfl⟩
  | reverse =>
      cases done
      exact ⟨cards, _, between, fetched, (List.reverse_perm cards).subperm, rfl⟩

theorem filter_chooses {criterion : FilterBy} {value : String} {caseSensitive : Bool}
    (done : executor.filter criterion value caseSensitive pipeline world = (.ok result, later)) :
    executor.Chooses .pipe pipeline world result := by
  obtain ⟨cards, between, fetched, done⟩ := Run.bind_ok done
  obtain ⟨kept, _, selected, done⟩ := Run.bind_ok done
  cases done
  exact ⟨cards, kept, between, fetched, (select_sublist selected).subperm, rfl⟩

theorem act_leaves {action : Action}
    (done : executor.act action pipeline world = (.ok result, later)) :
    (Body.act action).writes = false ∧ result = pipeline ∨ result = .finished := by
  cases action with
  | print =>
      obtain ⟨cards, taken, _, done⟩ := Run.bind_ok done
      obtain ⟨_, printed, _, done⟩ := Run.bind_ok done
      cases done
      exact Or.inl ⟨rfl, rfl⟩
  | copy target | move target =>
      obtain ⟨column, located, _, done⟩ := Run.bind_ok done
      obtain ⟨cards, taken, _, done⟩ := Run.bind_ok done
      obtain ⟨_, announced, _, done⟩ := Run.bind_ok done
      obtain ⟨_, written, _, done⟩ := Run.bind_ok done
      cases done
      exact Or.inr rfl
  | add target card =>
      obtain ⟨column, located, _, done⟩ := Run.bind_ok done
      obtain ⟨_, announced, _, done⟩ := Run.bind_ok done
      obtain ⟨landing, placed, _, done⟩ := Run.bind_ok done
      obtain ⟨_, written, _, done⟩ := Run.bind_ok done
      cases done
      exact Or.inr rfl

end Kanban.Executor
