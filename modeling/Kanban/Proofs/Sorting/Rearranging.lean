import Kanban.Sorting
import Mathlib.Data.List.Basic

namespace Kanban.Sorting

section

variable {ε β γ : Type} {such : β → Prop} {after : γ → Prop}

/-- What a computation gives, if it gives anything, is such. -/
def Gives (such : β → Prop) (computation : Except ε β) : Prop :=
  ∀ value, computation = .ok value → such value

theorem Gives.any (computation : Except ε β) : Gives (fun _ => True) computation :=
  fun _ _ => trivial

theorem Gives.pure {value : β} (holds : such value) :
    Gives such (Pure.pure value : Except ε β) := by
  rintro _ ⟨⟩
  exact holds

theorem Gives.bind {first : Except ε β} {next : β → Except ε γ} (gives : Gives such first)
    (onward : ∀ value, such value → Gives after (next value)) : Gives after (first >>= next) := by
  intro result done
  cases ended : first with
  | error cause =>
      rw [ended] at done
      cases done
  | ok value =>
      rw [ended] at done
      exact onward value (gives value ended) result done

def Learns (such : β → Prop) (computation : Learning (Except ε) β) : Prop :=
  ∀ most, Gives (fun ended => such ended.1) (computation most)

theorem Learns.pure {value : β} (holds : such value) :
    Learns such (Pure.pure value : Learning (Except ε) β) :=
  fun _ => .pure holds

theorem Learns.bind {first : Learning (Except ε) β} {next : β → Learning (Except ε) γ}
    (learns : Learns such first) (onward : ∀ value, such value → Learns after (next value)) :
    Learns after (first >>= next) :=
  fun most => (learns most).bind fun ended holds => onward ended.1 holds ended.2

theorem Learns.lift {computation : Except ε β} (gives : Gives such computation) :
    Learns such (liftM computation : Learning (Except ε) β) :=
  fun _ => gives.bind fun _ holds => .pure holds

theorem Learns.any (computation : Learning (Except ε) β) : Learns (fun _ => True) computation :=
  fun _ _ _ => trivial

end

section

variable {ε α : Type} (less : α → α → Except ε Bool)

theorem frontRow_gives (items : List α) :
    Gives (fun front : List α × List α =>
      (front.1 ++ front.2).Perm items ∧ (items ≠ [] → front.1 ≠ [])) (frontRow less items) := by
  match items with
  | [] => exact .pure (by simp)
  | [item] => exact .pure (by simp)
  | first :: second :: rest =>
      unfold frontRow
      simp only [List.splitAt_eq]
      refine .bind (.any _) fun descends _ => .bind (.any _) fun length _ => .pure ?_
      have whole := List.take_append_drop (length + 2) (first :: second :: rest)
      cases descends with
      | true => exact ⟨((List.reverse_perm _).append_right _).trans (.of_eq whole), by simp⟩
      | false => exact ⟨.of_eq whole, by simp⟩

theorem insertAll_gives (row items : List α) :
    Gives (·.Perm (row ++ items)) (insertAll less row items) := by
  induction items generalizing row with
  | nil => exact .pure (by simp)
  | cons item rest ih =>
      refine .bind (.any _) fun place _ value done => (ih _ value done).trans ?_
      calc
        List.Perm (row.take place ++ item :: row.drop place ++ rest)
            (item :: (row.take place ++ row.drop place) ++ rest) :=
          List.perm_middle.append_right rest
        _ = item :: (row ++ rest) := by rw [List.take_append_drop, List.cons_append]
        List.Perm _ (row ++ item :: rest) := List.perm_middle.symm

theorem takeRow_gives (least : Nat) (items : List α) :
    Gives (fun taken : List α × List α =>
      (taken.1 ++ taken.2).Perm items ∧ (items ≠ [] → taken.1 ≠ []))
      (takeRow less least items) := by
  refine .bind (frontRow_gives less items) fun (row, rest) ⟨perm, occupied⟩ => ?_
  refine .bind (insertAll_gives less row _) fun longer inserted => .pure ⟨?_, fun filled => ?_⟩
  · refine (inserted.append_right _).trans ?_
    rw [List.append_assoc, List.take_append_drop]
    exact perm
  · have length := inserted.length_eq
    rw [List.length_append] at length
    have positive := List.length_pos_iff.mpr (occupied filled)
    exact List.length_pos_iff.mp (by simp only at positive ⊢; omega)

end

namespace Merging

variable {α : Type}

def items (merging : Merging α) : List α :=
  merging.merged ++ (merging.held ++ merging.others)

theorem takeHeld_items (merging : Merging α) (count : Nat) :
    (merging.takeHeld count).items.Perm merging.items := by
  unfold items takeHeld
  calc
    List.Perm ((merging.held.take count).reverse ++ merging.merged ++
          (merging.held.drop count ++ merging.others))
        (merging.held.take count ++ merging.merged ++
          (merging.held.drop count ++ merging.others)) :=
      ((List.reverse_perm _).append_right _).append_right _
    List.Perm _ (merging.merged ++ merging.held.take count ++
          (merging.held.drop count ++ merging.others)) := List.perm_append_comm.append_right _
    _ = merging.merged ++ (merging.held ++ merging.others) := by
      rw [List.append_assoc, ← List.append_assoc (merging.held.take count),
        List.take_append_drop]

theorem takeOthers_items (merging : Merging α) (count : Nat) :
    (merging.takeOthers count).items.Perm merging.items := by
  unfold items takeOthers
  have front : List.Perm ((merging.others.take count).reverse ++ merging.merged)
      (merging.others.take count ++ merging.merged) := (List.reverse_perm _).append_right _
  calc
    List.Perm ((merging.others.take count).reverse ++ merging.merged ++
          (merging.held ++ merging.others.drop count))
        (merging.others.take count ++ merging.merged ++
          (merging.others.drop count ++ merging.held)) :=
      front.append List.perm_append_comm
    List.Perm _ (merging.merged ++ merging.others.take count ++
          (merging.others.drop count ++ merging.held)) := List.perm_append_comm.append_right _
    _ = merging.merged ++ (merging.others ++ merging.held) := by
      rw [List.append_assoc, ← List.append_assoc (merging.others.take count),
        List.take_append_drop]
    List.Perm _ (merging.merged ++ (merging.held ++ merging.others)) :=
      List.perm_append_comm.append_left _

theorem result_items (merging : Merging α) : merging.result.Perm merging.items := by
  unfold result items
  rw [List.append_assoc]
  exact (List.reverse_perm _).append List.perm_append_comm

end Merging

section

variable {ε α : Type} (otherFirst : α → α → Except ε Bool)

theorem alternate_gives (most fuel helds others : Nat) (merging : Merging α) :
    Gives (·.items.Perm merging.items)
      (alternate otherFirst most fuel helds others merging) := by
  induction fuel generalizing helds others merging with
  | zero => exact .pure (.refl _)
  | succ fuel ih =>
      unfold alternate
      split
      · refine .bind (.any _) fun first _ => ?_
        dsimp only
        split
        · split
          · exact .pure (merging.takeOthers_items 1)
          · exact fun next done => (ih _ _ _ next done).trans (merging.takeOthers_items 1)
        · split
          · exact .pure (merging.takeHeld_items 1)
          · exact fun next done => (ih _ _ _ next done).trans (merging.takeHeld_items 1)
      · exact .pure (.refl _)

theorem turnOfHeld_gives (side : Side) (merging : Merging α) :
    Gives (·.1.items.Perm merging.items) (turnOfHeld otherFirst side merging) := by
  unfold turnOfHeld
  split
  · exact .pure (.refl _)
  · refine .bind (.any _) fun count _ => .pure ?_
    dsimp only
    split
    · exact merging.takeHeld_items count
    · exact (Merging.takeOthers_items _ 1).trans (merging.takeHeld_items count)

theorem turnOfOthers_gives (side : Side) (merging : Merging α) :
    Gives (·.1.items.Perm merging.items) (turnOfOthers otherFirst side merging) := by
  unfold turnOfOthers
  split
  · exact .pure (.refl _)
  · refine .bind (.any _) fun count _ => .pure ?_
    dsimp only
    split
    · exact merging.takeOthers_items count
    · exact (Merging.takeHeld_items _ 1).trans (merging.takeOthers_items count)

theorem turns_gives (side : Side) (merging : Merging α) :
    Gives (·.1.items.Perm merging.items) (turns otherFirst side merging) := by
  cases side with
  | front =>
      refine .bind (turnOfHeld_gives otherFirst .front merging) fun (next, count) first => ?_
      dsimp only
      split
      · exact .pure first
      · refine .bind (turnOfOthers_gives otherFirst .front next) fun (last, further) second => ?_
        exact .pure (second.trans first)
  | back =>
      refine .bind (turnOfOthers_gives otherFirst .back merging) fun (next, count) first => ?_
      dsimp only
      split
      · exact .pure first
      · refine .bind (turnOfHeld_gives otherFirst .back next) fun (last, further) second => ?_
        exact .pure (second.trans first)

theorem takeBySearch_learns (side : Side) (fuel : Nat) (merging : Merging α) :
    Learns (·.items.Perm merging.items) (takeBySearch otherFirst side fuel merging) := by
  induction fuel generalizing merging with
  | zero => exact .pure (.refl _)
  | succ fuel ih =>
      unfold takeBySearch
      refine .bind (.any _) fun _ _ =>
        .bind (.lift (turns_gives otherFirst side merging)) fun (next, goesOn) taken => ?_
      dsimp only
      split
      · exact .pure taken
      · split
        · exact fun most ended done => (ih next most ended done).trans taken
        · exact .bind (.any _) fun _ _ => .pure taken

theorem takeAll_learns (side : Side) (fuel : Nat) (merging : Merging α) :
    Learns (·.items.Perm merging.items) (takeAll otherFirst side fuel merging) := by
  induction fuel generalizing merging with
  | zero => exact .pure (.refl _)
  | succ fuel ih =>
      unfold takeAll
      split
      · exact .pure (.refl _)
      · refine .bind (.any _) fun most _ =>
          .bind (.lift (alternate_gives otherFirst most _ 0 0 merging)) fun next taken => ?_
        split
        · exact .pure taken
        · refine .bind (.any _) fun _ _ =>
            .bind (takeBySearch_learns otherFirst side _ next) fun later searched => ?_
          exact fun most ended done =>
            ((ih later most ended done).trans searched).trans taken

theorem mergeHeld_learns (side : Side) (held others : List α) :
    Learns (·.Perm (held ++ others)) (mergeHeld otherFirst side held others) := by
  refine .bind (takeAll_learns otherFirst side _ _) fun merging taken => .pure ?_
  exact (merging.result_items.trans taken).trans (Merging.takeOthers_items _ 1)

end

section

variable {ε α : Type} (less : α → α → Except ε Bool)

theorem mergeInner_learns (left right : List α) :
    Learns (·.Perm (left ++ right)) (mergeInner less left right) := by
  unfold mergeInner
  split
  · exact mergeHeld_learns _ .front left right
  · refine .bind (mergeHeld_learns less .back right.reverse left.reverse) fun merged perm =>
      .pure ?_
    calc
      List.Perm merged.reverse (right.reverse ++ left.reverse) := (List.reverse_perm _).trans perm
      _ = (left ++ right).reverse := List.reverse_append.symm
      List.Perm _ (left ++ right) := List.reverse_perm _

theorem merge_learns (left right : List α) :
    Learns (·.Perm (left ++ right)) (merge less left right) := by
  unfold merge
  split
  next first front =>
    refine .bind (.any _) fun stays _ => ?_
    dsimp only
    split
    next last back =>
      refine .bind (.any _) fun stay _ => ?_
      simp only [List.splitAt_eq]
      split
      next => exact .pure (.refl _)
      next =>
        refine .bind (mergeInner_learns less _ _) fun merged perm => .pure ?_
        calc
          List.Perm (left.take stays ++ merged ++ right.drop (right.length - stay))
              (left.take stays ++ (left.drop stays ++ right.take (right.length - stay)) ++
                right.drop (right.length - stay)) := (perm.append_left _).append_right _
          _ = left ++ right := by
            rw [← List.append_assoc, List.take_append_drop, List.append_assoc,
              List.take_append_drop]
    next => exact .pure (.refl _)
  next empty =>
    cases right with
    | nil => exact .pure (by simp)
    | cons first rest => exact absurd rfl (empty first)

def itemsOf (rows : List (Row α)) : List α :=
  rows.flatMap (·.items)

omit less in
@[simp] theorem itemsOf_nil : itemsOf ([] : List (Row α)) = [] := rfl

@[simp] theorem itemsOf_cons (row : Row α) (rest : List (Row α)) :
    itemsOf (row :: rest) = row.items ++ itemsOf rest := rfl

theorem join_learns (row next : Row α) :
    Learns (·.items.Perm (row.items ++ next.items)) (join less row next) :=
  .bind (merge_learns less row.items next.items) fun _ perm => .pure perm

theorem settle_learns (depth : Nat) (rows : List (Row α)) :
    Learns (fun settled => (itemsOf settled).Perm (itemsOf rows) ∧ (rows ≠ [] → settled ≠ []))
      (settle less depth rows) := by
  induction rows using settle.induct depth with
  | case1 last before rest deeper ih =>
      rw [settle, if_pos deeper]
      refine .bind (join_learns less before last) fun joined perm most ended done => ?_
      obtain ⟨settled, occupied⟩ := ih joined most ended done
      refine ⟨settled.trans ?_, fun _ => occupied (List.cons_ne_nil _ _)⟩
      simp only [itemsOf_cons, ← List.append_assoc]
      exact (perm.trans List.perm_append_comm).append_right _
  | case2 last before rest deepest =>
      rw [settle, if_neg deepest]
      exact .pure ⟨.refl _, id⟩
  | case3 rows few =>
      rw [settle]
      · exact .pure ⟨.refl _, id⟩
      · exact few

theorem add_learns (length : Nat) (rows : List (Row α)) (row : Row α) :
    Learns (fun added => (itemsOf added).Perm (itemsOf rows ++ row.items))
      (add less length rows row) := by
  unfold add
  split
  next => exact .pure (by simp)
  next last others =>
    refine .bind (settle_learns less _ _) fun settled ⟨perm, occupied⟩ => ?_
    split
    next first rest => exact .pure (List.perm_append_comm.trans (perm.append_right _))
    next => exact absurd rfl (occupied (List.cons_ne_nil _ _))

theorem cut_learns (length fuel start : Nat) (rows : List (Row α)) (items : List α)
    (enough : items.length ≤ fuel) :
    Learns (fun cut => (itemsOf cut).Perm (itemsOf rows ++ items))
      (cut less length fuel start rows items) := by
  induction fuel generalizing start rows items with
  | zero =>
      rw [List.length_eq_zero_iff.mp (Nat.le_zero.mp enough)]
      exact .pure (by simp)
  | succ fuel ih =>
      cases items with
      | nil => exact .pure (by simp)
      | cons item others =>
          unfold cut
          refine .bind (.lift (takeRow_gives less _ _)) fun (row, rest) ⟨whole, occupied⟩ =>
            .bind (add_learns less length rows _) fun added perm most ended done => ?_
          have shorter : rest.length ≤ fuel := by
            have positive := List.length_pos_iff.mpr (occupied (List.cons_ne_nil _ _))
            have length := whole.length_eq
            simp only [List.length_append] at length positive
            omega
          refine (ih _ _ _ shorter most ended done).trans ?_
          calc
            List.Perm (itemsOf added ++ rest) (itemsOf rows ++ row ++ rest) := perm.append_right _
            _ = itemsOf rows ++ (row ++ rest) := List.append_assoc ..
            List.Perm _ (itemsOf rows ++ item :: others) := whole.append_left _

theorem mergeAll_learns (rows : List (Row α)) :
    Learns (·.Perm (itemsOf rows)) (mergeAll less rows) := by
  induction rows using mergeAll.induct with
  | case1 =>
      rw [mergeAll]
      exact .pure (.refl _)
  | case2 row =>
      rw [mergeAll]
      exact .pure (by simp)
  | case3 last before =>
      rw [mergeAll]
      refine .bind (join_learns less before last) fun joined perm => .pure ?_
      simpa using perm.trans List.perm_append_comm
  | case4 last before earlier rest shorter ih =>
      rw [mergeAll, if_pos shorter]
      refine .bind (join_learns less earlier before) fun joined perm most ended done => ?_
      refine (ih joined most ended done).trans ?_
      simp only [itemsOf_cons]
      refine .append_left _ ?_
      rw [← List.append_assoc]
      exact (perm.trans List.perm_append_comm).append_right _
  | case5 last before earlier rest longer ih =>
      rw [mergeAll, if_neg longer]
      refine .bind (join_learns less before last) fun joined perm most ended done => ?_
      refine (ih joined most ended done).trans ?_
      simp only [itemsOf_cons, ← List.append_assoc]
      exact ((perm.trans List.perm_append_comm).append_right _).append_right _

theorem sort_gives (items : List α) : Gives (·.Perm items) (sort less items) := by
  have sorted : Learns (·.Perm items)
      (cut less items.length items.length 0 [] items >>= mergeAll less) :=
    .bind (cut_learns less items.length items.length 0 [] items (Nat.le_refl _))
      fun rows cut most ended done => (mergeAll_learns less rows most ended done).trans cut
  exact .bind (sorted worthwhile) fun ended perm => .pure perm

end

end Kanban.Sorting
