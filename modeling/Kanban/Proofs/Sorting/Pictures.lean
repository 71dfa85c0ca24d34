import Kanban.Sorting

/-!
Sorting looks at its items by comparing them only.  Where the items of a list are pictures of others
and compare as those do, what is sorted, merged and searched are pictures as well.
-/
namespace Kanban.Sorting

section

variable {m : Type → Type} [Monad m] [LawfulMonad m] {α β γ δ : Type}

/-- Whether a computation gives the picture of what another one gives. -/
def Pictures (picture : α → β) (computation : m α) (other : m β) : Prop :=
  other = picture <$> computation

namespace Pictures

variable {picture : α → β} {scene : γ → δ}

theorem pure {value : α} {other : β} (same : picture value = other) :
    Pictures picture (Pure.pure value : m α) (Pure.pure other) := by
  rw [← same]
  exact (map_pure picture value).symm

theorem same (computation : m α) : Pictures id computation computation :=
  (id_map computation).symm

theorem bind {first : m α} {other : m β} {next : α → m γ} {follow : β → m δ}
    (pictures : Pictures picture first other)
    (onward : ∀ value, Pictures scene (next value) (follow (picture value))) :
    Pictures scene (first >>= next) (other >>= follow) := by
  unfold Pictures at pictures ⊢
  rw [pictures, bind_map_left, map_bind]
  exact bind_congr onward

theorem lift {computation : m α} {other : m β} (pictures : Pictures picture computation other) :
    Pictures picture (liftM computation : Learning m α) (liftM other : Learning m β) := by
  unfold Pictures at pictures ⊢
  rw [pictures]
  exact liftM_map ..

end Pictures

end

section

variable {m : Type → Type} [Monad m] {α β : Type} (picture : α → β) (passes : β → m Bool)

theorem halve_map (side : Side) (items : Array α) (low width : Nat) :
    halve passes side (items.map picture) low width =
      halve (fun item => passes (picture item)) side items low width := by
  induction width using Nat.strongRecOn generalizing low with
  | ind width ih =>
      rw [halve, halve]
      split
      next positive =>
        dsimp only
        rw [Array.getElem?_map]
        cases items[low + side.middle width]? with
        | none => rfl
        | some item =>
            have shorter := side.middle_lt positive
            refine bind_congr fun passed => ?_
            rw [ih _ (by omega), ih _ shorter]
      next => rfl

theorem stride_map (items : Array α) (near far : Nat) :
    stride passes (items.map picture) near far =
      stride (fun item => passes (picture item)) items near far := by
  induction near, far using stride.induct items with
  | case1 near far inside ih =>
      conv => lhs; rw [stride, dif_pos (by simpa using inside)]
      conv => rhs; rw [stride, dif_pos inside]
      simp only [Array.getElem_map, ih]
  | case2 near far outside =>
      conv => lhs; rw [stride, dif_neg (by simpa using outside), Array.size_map]
      conv => rhs; rw [stride, dif_neg outside]

theorem search_map (side : Side) (items : List α) :
    search passes side (items.map picture) =
      search (fun item => passes (picture item)) side items := by
  cases items with
  | nil => rfl
  | cons first rest =>
      have row : ((first :: rest).map picture).toArray = (first :: rest).toArray.map picture := by
        simp
      simp only [search, List.map_cons] at row ⊢
      simp only [row, stride_map, halve_map]

end

section

variable {m : Type → Type} [Monad m] [LawfulMonad m] {α β : Type} (picture : α → β)
  (less : β → β → m Bool)

def both (lists : List α × List α) : List β × List β :=
  (lists.1.map picture, lists.2.map picture)

omit [LawfulMonad m] in
theorem rowLength_map (descends : Bool) (before : α) (items : List α) :
    rowLength less descends (picture before) (items.map picture) =
      rowLength (fun x y => less (picture x) (picture y)) descends before items := by
  induction items generalizing before with
  | nil => rfl
  | cons next rest ih => simp only [List.map_cons, rowLength, ih]

theorem frontRow_pictures (items : List α) :
    Pictures (both picture) (frontRow (fun x y => less (picture x) (picture y)) items)
      (frontRow less (items.map picture)) := by
  match items with
  | [] => exact .pure rfl
  | [item] => exact .pure rfl
  | first :: second :: rest =>
      simp only [List.map_cons, frontRow, rowLength_map, List.splitAt_eq]
      refine .bind (.same _) fun descends => .bind (.same _) fun length => .pure ?_
      cases descends <;> simp [both]

omit [LawfulMonad m] in
theorem placeOf_map (row : List α) (item : α) :
    placeOf less (row.map picture) (picture item) =
      placeOf (fun x y => less (picture x) (picture y)) row item := by
  unfold placeOf
  rw [← List.map_toArray, halve_map, List.length_map]

theorem insertAll_pictures (row items : List α) :
    Pictures (List.map picture)
      (insertAll (fun x y => less (picture x) (picture y)) row items)
      (insertAll less (row.map picture) (items.map picture)) := by
  induction items generalizing row with
  | nil => exact .pure rfl
  | cons item rest ih =>
      simp only [List.map_cons, insertAll, placeOf_map]
      refine .bind (.same _) fun place => ?_
      simpa using ih (row.take place ++ item :: row.drop place)

theorem takeRow_pictures (least : Nat) (items : List α) :
    Pictures (both picture) (takeRow (fun x y => less (picture x) (picture y)) least items)
      (takeRow less least (items.map picture)) := by
  refine .bind (frontRow_pictures picture less items) fun (row, rest) => ?_
  simp only [both, List.length_map, ← List.map_take, ← List.map_drop]
  exact .bind (insertAll_pictures picture less row _) fun longer => .pure rfl

end

namespace Merging

variable {α β : Type} (picture : α → β)

def map (merging : Merging α) : Merging β where
  merged := merging.merged.map picture
  held := merging.held.map picture
  others := merging.others.map picture

@[simp] theorem map_held (merging : Merging α) :
    (merging.map picture).held = merging.held.map picture := rfl

@[simp] theorem map_others (merging : Merging α) :
    (merging.map picture).others = merging.others.map picture := rfl

@[simp] theorem takeHeld_map (merging : Merging α) (count : Nat) :
    (merging.map picture).takeHeld count = (merging.takeHeld count).map picture := by
  simp [map, takeHeld]

@[simp] theorem takeOthers_map (merging : Merging α) (count : Nat) :
    (merging.map picture).takeOthers count = (merging.takeOthers count).map picture := by
  simp [map, takeOthers]

@[simp] theorem isOver_map (merging : Merging α) :
    (merging.map picture).isOver = merging.isOver := by
  simp [map, isOver]

@[simp] theorem room_map (merging : Merging α) : (merging.map picture).room = merging.room := by
  simp [map, room]

@[simp] theorem result_map (merging : Merging α) :
    (merging.map picture).result = merging.result.map picture := by
  simp [map, result]

end Merging

section

variable {m : Type → Type} [Monad m] [LawfulMonad m] {α β : Type} (picture : α → β)
  (otherFirst : β → β → m Bool)

theorem alternate_pictures (most fuel helds others : Nat) (merging : Merging α) :
    Pictures (Merging.map picture)
      (alternate (fun x y => otherFirst (picture x) (picture y)) most fuel helds others merging)
      (alternate otherFirst most fuel helds others (merging.map picture)) := by
  induction fuel generalizing helds others merging with
  | zero => exact .pure rfl
  | succ fuel ih =>
      unfold alternate
      rw [Merging.map_held, Merging.map_others]
      cases merging.held with
      | nil => exact .pure rfl
      | cons held _ =>
          cases merging.others with
          | nil => exact .pure rfl
          | cons other _ =>
              refine .bind (.same _) fun first => ?_
              simp only [Merging.takeHeld_map, Merging.takeOthers_map, Merging.isOver_map, id]
              split
              · split
                · exact .pure rfl
                · exact ih _ _ _
              · split
                · exact .pure rfl
                · exact ih _ _ _

theorem turnOfHeld_pictures (side : Side) (merging : Merging α) :
    Pictures (Prod.map (Merging.map picture) id)
      (turnOfHeld (fun x y => otherFirst (picture x) (picture y)) side merging)
      (turnOfHeld otherFirst side (merging.map picture)) := by
  unfold turnOfHeld
  rw [Merging.map_others]
  cases merging.others with
  | nil => exact .pure rfl
  | cons other _ =>
      simp only [List.map_cons, Merging.map_held, search_map]
      refine .bind (.same _) fun count => .pure ?_
      simp only [Merging.takeHeld_map, Merging.isOver_map, Merging.takeOthers_map, id]
      split <;> rfl

theorem turnOfOthers_pictures (side : Side) (merging : Merging α) :
    Pictures (Prod.map (Merging.map picture) id)
      (turnOfOthers (fun x y => otherFirst (picture x) (picture y)) side merging)
      (turnOfOthers otherFirst side (merging.map picture)) := by
  unfold turnOfOthers
  rw [Merging.map_held]
  cases merging.held with
  | nil => exact .pure rfl
  | cons held _ =>
      simp only [List.map_cons, Merging.map_others, search_map]
      refine .bind (.same _) fun count => .pure ?_
      simp only [Merging.takeHeld_map, Merging.isOver_map, Merging.takeOthers_map, id]
      split <;> rfl

theorem turns_pictures (side : Side) (merging : Merging α) :
    Pictures (Prod.map (Merging.map picture) id)
      (turns (fun x y => otherFirst (picture x) (picture y)) side merging)
      (turns otherFirst side (merging.map picture)) := by
  cases side with
  | front =>
      refine .bind (turnOfHeld_pictures picture otherFirst .front merging)
        fun (next, count) => ?_
      simp only [Prod.map, Merging.isOver_map, id]
      split
      · exact .pure rfl
      · exact .bind (turnOfOthers_pictures picture otherFirst .front next)
          fun (last, further) => .pure rfl
  | back =>
      refine .bind (turnOfOthers_pictures picture otherFirst .back merging)
        fun (next, count) => ?_
      simp only [Prod.map, Merging.isOver_map, id]
      split
      · exact .pure rfl
      · exact .bind (turnOfHeld_pictures picture otherFirst .back next)
          fun (last, further) => .pure rfl

theorem takeBySearch_pictures (side : Side) (fuel : Nat) (merging : Merging α) :
    Pictures (Merging.map picture)
      (takeBySearch (fun x y => otherFirst (picture x) (picture y)) side fuel merging)
      (takeBySearch otherFirst side fuel (merging.map picture)) := by
  induction fuel generalizing merging with
  | zero => exact .pure rfl
  | succ fuel ih =>
      unfold takeBySearch
      refine .bind (.same _) fun _ =>
        .bind (.lift (turns_pictures picture otherFirst side merging)) fun (next, goesOn) => ?_
      simp only [Prod.map, Merging.isOver_map, id]
      split
      · exact .pure rfl
      · split
        · exact ih next
        · exact .bind (.same _) fun _ => .pure rfl

theorem takeAll_pictures (side : Side) (fuel : Nat) (merging : Merging α) :
    Pictures (Merging.map picture)
      (takeAll (fun x y => otherFirst (picture x) (picture y)) side fuel merging)
      (takeAll otherFirst side fuel (merging.map picture)) := by
  induction fuel generalizing merging with
  | zero => exact .pure rfl
  | succ fuel ih =>
      unfold takeAll
      simp only [Merging.isOver_map, Merging.room_map]
      split
      · exact .pure rfl
      · refine .bind (.same _) fun most =>
          .bind (.lift (alternate_pictures picture otherFirst most _ 0 0 merging)) fun next => ?_
        simp only [Merging.isOver_map, Merging.room_map]
        split
        · exact .pure rfl
        · exact .bind (.same _) fun _ =>
            .bind (takeBySearch_pictures picture otherFirst side _ next) fun later => ih later

theorem mergeHeld_pictures (side : Side) (held others : List α) :
    Pictures (List.map picture)
      (mergeHeld (fun x y => otherFirst (picture x) (picture y)) side held others)
      (mergeHeld otherFirst side (held.map picture) (others.map picture)) := by
  have start : (⟨[], held.map picture, others.map picture⟩ : Merging β) =
      Merging.map picture ⟨[], held, others⟩ := rfl
  simp only [mergeHeld, start, Merging.takeOthers_map, Merging.room_map]
  exact .bind (takeAll_pictures picture otherFirst side _ _) fun merging =>
    .pure (merging.result_map picture).symm

end

section

variable {m : Type → Type} [Monad m] [LawfulMonad m] {α β : Type} (picture : α → β)
  (less : β → β → m Bool)

theorem mergeInner_pictures (left right : List α) :
    Pictures (List.map picture)
      (mergeInner (fun x y => less (picture x) (picture y)) left right)
      (mergeInner less (left.map picture) (right.map picture)) := by
  simp only [mergeInner, List.length_map, ← List.map_reverse]
  split
  · exact mergeHeld_pictures picture (fun held other => less other held) .front left right
  · exact .bind (mergeHeld_pictures picture less .back right.reverse left.reverse) fun merged =>
      .pure List.map_reverse

theorem merge_pictures (left right : List α) :
    Pictures (List.map picture) (merge (fun x y => less (picture x) (picture y)) left right)
      (merge less (left.map picture) (right.map picture)) := by
  unfold merge
  simp only [List.head?_map]
  cases right.head? with
  | none => exact .pure rfl
  | some first =>
      simp only [Option.map_some, search_map]
      refine .bind (.same _) fun stays => ?_
      simp only [id, ← List.map_drop, List.getLast?_map]
      cases (left.drop stays).getLast? with
      | none => exact .pure List.map_append
      | some last =>
          simp only [Option.map_some, ← List.map_reverse, search_map]
          refine .bind (.same _) fun stay => ?_
          simp only [id, List.splitAt_eq, List.length_map, ← List.map_take, List.isEmpty_map]
          split
          · exact .pure List.map_append
          · exact .bind (mergeInner_pictures picture less _ _) fun merged => .pure (by simp)

def Row.map {α β : Type} (picture : α → β) (row : Row α) : Row β :=
  { start := row.start, items := row.items.map picture, depth := row.depth }

@[simp] theorem Row.map_depth (row : Row α) : (row.map picture).depth = row.depth := rfl

@[simp] theorem Row.length_items_map (row : Row α) :
    (row.map picture).items.length = row.items.length :=
  List.length_map _

theorem join_pictures (row next : Row α) :
    Pictures (Row.map picture) (join (fun x y => less (picture x) (picture y)) row next)
      (join less (row.map picture) (next.map picture)) :=
  .bind (merge_pictures picture less row.items next.items) fun _ => .pure rfl

theorem settle_pictures (depth : Nat) (rows : List (Row α)) :
    Pictures (List.map (Row.map picture))
      (settle (fun x y => less (picture x) (picture y)) depth rows)
      (settle less depth (rows.map (Row.map picture))) := by
  induction rows using settle.induct depth with
  | case1 last before rest deeper ih =>
      rw [settle, if_pos deeper, List.map_cons, List.map_cons, settle, Row.map_depth,
        if_pos deeper]
      exact .bind (join_pictures picture less before last) fun joined => ih joined
  | case2 last before rest deepest =>
      rw [settle, if_neg deepest, List.map_cons, List.map_cons, settle, Row.map_depth,
        if_neg deepest]
      exact .pure rfl
  | case3 rows few =>
      rcases rows with _ | ⟨last, _ | ⟨before, rest⟩⟩
      · simp only [List.map_nil, settle]
        exact .pure rfl
      · simp only [List.map_cons, List.map_nil, settle]
        exact .pure rfl
      · exact absurd rfl (few last before rest)

theorem add_pictures (length : Nat) (rows : List (Row α)) (row : Row α) :
    Pictures (List.map (Row.map picture))
      (add (fun x y => less (picture x) (picture y)) length rows row)
      (add less length (rows.map (Row.map picture)) (row.map picture)) := by
  cases rows with
  | nil => exact .pure rfl
  | cons last rest =>
      have depth : (last.map picture).depthBefore (row.map picture) length =
          last.depthBefore row length := by
        simp [Row.depthBefore, Row.map]
      unfold add
      simp only [List.map_cons, depth]
      refine .bind (settle_pictures picture less _ (last :: rest)) fun settled => ?_
      cases settled with
      | nil => exact .pure rfl
      | cons first others => exact .pure rfl

theorem cut_pictures (length fuel start : Nat) (rows : List (Row α)) (items : List α) :
    Pictures (List.map (Row.map picture))
      (cut (fun x y => less (picture x) (picture y)) length fuel start rows items)
      (cut less length fuel start (rows.map (Row.map picture)) (items.map picture)) := by
  induction fuel generalizing start rows items with
  | zero => exact .pure rfl
  | succ fuel ih =>
      cases items with
      | nil => exact .pure rfl
      | cons item others =>
          unfold cut
          refine .bind (.lift (takeRow_pictures picture less _ (item :: others)))
            fun (row, rest) => ?_
          refine .bind (add_pictures picture less length rows _) fun added => ?_
          simpa [both] using ih (start + row.length) added rest

theorem mergeAll_pictures (rows : List (Row α)) :
    Pictures (List.map picture) (mergeAll (fun x y => less (picture x) (picture y)) rows)
      (mergeAll less (rows.map (Row.map picture))) := by
  induction rows using mergeAll.induct with
  | case1 =>
      rw [List.map_nil, mergeAll, mergeAll]
      exact .pure rfl
  | case2 row =>
      rw [List.map_cons, List.map_nil, mergeAll, mergeAll]
      exact .pure rfl
  | case3 last before =>
      simp only [List.map_cons, List.map_nil, mergeAll]
      exact .bind (join_pictures picture less before last) fun joined => .pure rfl
  | case4 last before earlier rest shorter ih =>
      simp only [List.map_cons, mergeAll, Row.length_items_map, if_pos shorter]
      exact .bind (join_pictures picture less earlier before) ih
  | case5 last before earlier rest longer ih =>
      simp only [List.map_cons, mergeAll, Row.length_items_map, if_neg longer]
      exact .bind (join_pictures picture less before last) ih

theorem sort_pictures (items : List α) :
    Pictures (List.map picture) (sort (fun x y => less (picture x) (picture y)) items)
      (sort less (items.map picture)) := by
  have sorted : Pictures (List.map picture)
      (cut (fun x y => less (picture x) (picture y)) items.length items.length 0 [] items >>=
        mergeAll (fun x y => less (picture x) (picture y)))
      (cut less items.length items.length 0 [] (items.map picture) >>= mergeAll less) :=
    .bind (cut_pictures picture less _ _ _ [] items) (mergeAll_pictures picture less)
  unfold Pictures at sorted ⊢
  simp only [sort, List.length_map, sorted, StateT.run'_eq, StateT.run_map, Functor.map_map]

end

end Kanban.Sorting
