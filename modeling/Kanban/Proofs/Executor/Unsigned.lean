import Kanban.Proofs.Service.Memory.Unsigned
import Kanban.Proofs.Sorting.Pictures

namespace Kanban

def Pipeline.unsigned (pipeline : Pipeline) : Pipeline :=
  { pipeline with items := pipeline.items.map Card.unsigned }

namespace Draws

theorem exchange_map (picture : α → β) (items : List α) (i j : Nat) :
    exchange (items.map picture) i j = (exchange items i j).map picture := by
  simp only [exchange, List.getElem?_map]
  cases items[i]? with
  | none => rfl
  | some a =>
      cases items[j]? with
      | none => rfl
      | some b => simp [List.map_set]

theorem shuffleFrom_map (picture : α → β) (last : Nat) (items : List α) (draws : Draws) :
    shuffleFrom last (items.map picture) draws =
      ((shuffleFrom last items draws).1.map picture, (shuffleFrom last items draws).2) := by
  induction last generalizing items draws with
  | zero => rfl
  | succ last ih => simp only [shuffleFrom, exchange_map, ih]

theorem shuffle_map (picture : α → β) (items : List α) (draws : Draws) :
    draws.shuffle (items.map picture) =
      ((draws.shuffle items).1.map picture, (draws.shuffle items).2) := by
  simp only [shuffle, List.length_map, shuffleFrom_map]

end Draws

namespace Executor

theorem pick_map (cards : List Card) (indices : List Nat) :
    pick (cards.map Card.unsigned) indices = (pick cards indices).map Card.unsigned := by
  simp [pick, List.map_filterMap]

theorem sortByName_unsigned (cards : List Card) :
    sortByName (cards.map Card.unsigned) = List.map Card.unsigned <$> sortByName cards := by
  have textual : (cards.map Card.unsigned).all (·.name.isText) = cards.all (·.name.isText) := by
    rw [List.all_map]
    rfl
  unfold sortByName
  rw [textual]
  split
  · exact congrArg Except.ok
      (List.map_mergeSort (f := Card.unsigned) (s := nameAtMost) fun _ _ _ _ => rfl).symm
  · exact Sorting.sort_pictures Card.unsigned (fun left right => left.name.less right.name) cards

theorem keepFolded_unsigned (wanted : String) (cards : List Card) :
    keepFolded wanted (cards.map Card.unsigned) =
      List.map Card.unsigned <$> keepFolded wanted cards := by
  induction cards with
  | nil => rfl
  | cons card rest ih =>
      have name : card.unsigned.name = card.name := rfl
      simp only [List.map_cons, keepFolded, ih, name, map_bind, bind_map_left]
      refine bind_congr fun folded => bind_congr fun kept => ?_
      split <;> rfl

theorem keepNamed_unsigned (value : String) (caseSensitive : Bool) (cards : List Card) :
    keepNamed value caseSensitive (cards.map Card.unsigned) =
      List.map Card.unsigned <$> keepNamed value caseSensitive cards := by
  cases caseSensitive with
  | true => exact congrArg Except.ok List.filter_map
  | false => exact keepFolded_unsigned _ cards

theorem keepLabelled_unsigned (label : Label) (cards : List Card) :
    keepLabelled label (cards.map Card.unsigned) =
      (keepLabelled label cards).map Card.unsigned :=
  List.filter_map

theorem ascending_unsigned (positions : List Float) :
    ascending (positions.map Number.unsigned) = (ascending positions).map Number.unsigned := by
  have numbers : (positions.map Number.unsigned).all (fun x => x == x) =
      positions.all fun x => x == x := by
    simp [List.all_map, Function.comp_def]
  unfold ascending
  rw [numbers]
  split
  · refine (List.map_mergeSort fun x _ y _ => ?_).symm
    simp
  · have sorted := Sorting.sort_pictures Number.unsigned
      (fun x y => (pure (decide (x < y)) : Id Bool)) positions
    simp only [Number.unsigned_lt_unsigned] at sorted
    exact sorted

theorem midpoint_unsigned (x y : Float) :
    Number.unsigned (midpoint (Number.unsigned x) (Number.unsigned y)) =
      Number.unsigned (midpoint x y) := by
  unfold midpoint
  rw [← Number.unsigned_div, Number.unsigned_add, Number.unsigned_div]

theorem inGap_unsigned (positions : List Float) (slot : Nat) :
    (Landing.inGap midpoint (positions.map Number.unsigned) slot).unsigned =
      (Landing.inGap midpoint positions slot).unsigned := by
  unfold Landing.inGap
  simp only [List.length_map, List.getElem?_map]
  split
  · rfl
  · split
    · rfl
    · cases positions[slot - 1]? with
      | none => rfl
      | some before =>
          cases positions[slot]? with
          | none => rfl
          | some after => exact congrArg Landing.at (midpoint_unsigned before after)

end Executor

end Kanban
