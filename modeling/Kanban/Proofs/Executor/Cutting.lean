import Kanban.Proofs.Executor.Ordering

namespace Kanban.Executor

inductive End where
  | top
  | bottom

/-- How many of so many cards a size stands for. -/
def amount (size total : Nat) : Nat :=
  if size = 0 then total else min size total

def smaller (size other : Nat) : Nat :=
  if size = 0 then other else if other = 0 then size else min size other

theorem amount_le (size total : Nat) : amount size total ≤ total := by
  unfold amount
  split <;> omega

theorem amount_smaller (size other total : Nat) :
    amount (smaller size other) total = min (amount size total) (amount other total) := by
  unfold amount smaller
  split_ifs <;> omega

theorem amount_amount (size other total : Nat) :
    amount other (amount size total) = amount (smaller size other) total := by
  rw [amount_smaller]
  unfold amount
  split_ifs <;> omega

namespace End

variable {cards : List Card} {size : Nat}

def place : End → Place
  | top => .top
  | bottom => .bottom

def cut (side : End) (size : Nat) (cards : List Card) : List Card :=
  match side with
  | top => cards.take (amount size cards.length)
  | bottom => cards.drop (cards.length - amount size cards.length)

@[simp] theorem length_cut (side : End) (size : Nat) (cards : List Card) :
    (side.cut size cards).length = amount size cards.length := by
  have least := amount_le size cards.length
  cases side with
  | top => exact List.length_take_of_le least
  | bottom =>
      rw [cut, List.length_drop]
      omega

theorem cut_top_reverse (size : Nat) (cards : List Card) :
    top.cut size cards.reverse = (bottom.cut size cards).reverse := by
  rw [cut, cut, List.length_reverse, List.take_reverse]

theorem cut_cut (side : End) (size other : Nat) (cards : List Card) :
    side.cut other (side.cut size cards) = side.cut (smaller size other) cards := by
  cases side with
  | top =>
      rw [cut, length_cut, amount_amount, cut, List.take_take, cut, amount_smaller]
      congr 1
      omega
  | bottom =>
      rw [cut, length_cut, amount_amount, cut, List.drop_drop, cut]
      congr 1
      have least := amount_le size cards.length
      rw [amount_smaller]
      omega

theorem cut_append_cut (wanted : 0 < size) (notAll : size < cards.length) :
    top.cut size cards ++ bottom.cut (cards.length - size) cards = cards := by
  have above : amount size cards.length = size := by
    rw [amount, if_neg (by omega), Nat.min_eq_left (by omega)]
  have below : cards.length - amount (cards.length - size) cards.length = size := by
    rw [amount, if_neg (by omega), Nat.min_eq_left (by omega)]
    omega
  rw [cut, cut, above, below, List.take_append_drop]

theorem cut_whole (side : End) (whole : ¬ (0 < size ∧ size < cards.length)) :
    side.cut size cards = cards := by
  have all : amount size cards.length = cards.length := by
    unfold amount
    split_ifs <;> omega
  cases side with
  | top => rw [cut, all, List.take_length]
  | bottom => rw [cut, all, Nat.sub_self, List.drop_zero]

end End

variable {executor : Executor σ} {cards : List Card}

theorem take_always (side : End) (size : Nat) :
    (executor.take .pipe size side.place (.holding cards)).Always
      (.holding (side.cut size cards)) := by
  have sourced : (executor.sourceCards .pipe (.holding cards)).Always cards :=
    .bind (.pure cards) (.bind (.emit _) (.pure _))
  apply sourced.bind
  dsimp only
  split
  next cuts =>
    have exact : amount size cards.length = size := by
      rw [amount, if_neg (by omega), Nat.min_eq_left (by omega)]
    apply Run.Always.bind (.emit _)
    cases side with
    | top =>
        rw [End.cut, exact]
        exact .pure _
    | bottom =>
        rw [End.cut, exact]
        exact .pure _
  next whole =>
    rw [side.cut_whole whole]
    exact .pure _

/-- Cuts of one pipe, of any two sizes.  A cut at the top keeps a beginning of the pipe and a cut at
the bottom an end of it, as long as the size says. -/
theorem takes_cut (executor : Executor σ) (cards : List Card) {underWay : List String} {m n : Nat}
    {first second combined : End → String} {turn rest : String}
    (firstReady : ∀ side, executor.Ready underWay (first side) (.take .pipe m side.place))
    (secondReady : ∀ side, executor.Ready underWay (second side) (.take .pipe n side.place))
    (combinedReady : ∀ side,
      executor.Ready underWay (combined side) (.take .pipe (smaller m n) side.place))
    (turns : executor.Ready underWay turn (.order .reverse .pipe))
    (restReady : executor.Ready underWay rest (.take .pipe (cards.length - n) .bottom))
    (world : World σ) :
    let flow steps := executor.evaluate (executor.enter underWay) (.flow steps) (.holding cards)
    let gives steps kept := (flow steps).Observes executor.service world (.holding kept)
    (∃ above below, gives [second .top] above ∧ gives [second .bottom] below ∧
      above <+: cards ∧ below <:+ cards ∧
      above.length = (if n = 0 then cards.length else min n cards.length) ∧
      below.length = (if n = 0 then cards.length else min n cards.length)) ∧
    (∀ side, ∃ kept, gives [combined side] kept ∧ gives [first side, second side] kept) ∧
    (∃ kept, gives [second .bottom] kept ∧ gives [turn, second .top, turn] kept) ∧
    (0 < n → n < cards.length →
      ∃ above below, gives [second .top] above ∧ gives [rest] below ∧ above ++ below = cards) := by
  intro flow gives
  have cutter {name : String} {size : Nat} (side : End)
      (ready : executor.Ready underWay name (.take .pipe size side.place)) :
      executor.ReadyToRead underWay (name, .take .pipe size side.place) :=
    ⟨ready, rfl, rfl⟩
  have turner : executor.ReadyToRead underWay (turn, .order .reverse .pipe) := ⟨turns, rfl, rfl⟩
  have single {name : String} {size : Nat} (side : End)
      (ready : executor.Ready underWay name (.take .pipe size side.place)) :
      gives [name] (side.cut size cards) :=
    flow_observes [(name, .take .pipe size side.place)] (by simpa using cutter side ready)
      ((take_always side size).bind (.pure _) world)
  have twice (side : End) : gives [first side, second side] (side.cut (smaller m n) cards) := by
    rw [← side.cut_cut]
    exact flow_observes
      [(first side, .take .pipe m side.place), (second side, .take .pipe n side.place)]
      (by simp [cutter side (firstReady side), cutter side (secondReady side)])
      ((take_always side m).bind ((take_always side n).bind (.pure _)) world)
  have turned : gives [turn, second .top, turn] (End.bottom.cut n cards) := by
    rw [← List.reverse_reverse (End.bottom.cut n cards), ← End.cut_top_reverse]
    exact flow_observes
      [(turn, .order .reverse .pipe), (second .top, .take .pipe n End.top.place),
        (turn, .order .reverse .pipe)]
      (by simp [turner, cutter .top (secondReady .top)])
      (reverse_always.bind ((take_always .top n).bind (reverse_always.bind (.pure _))) world)
  refine ⟨⟨_, _, single .top (secondReady .top), single .bottom (secondReady .bottom),
      List.take_prefix _ _, List.drop_suffix _ _, End.length_cut .., End.length_cut ..⟩,
    fun side => ⟨_, single side (combinedReady side), twice side⟩,
    ⟨_, single .bottom (secondReady .bottom), turned⟩, fun wanted notAll => ?_⟩
  exact ⟨_, _, single .top (secondReady .top), single .bottom restReady,
    End.cut_append_cut wanted notAll⟩

/-- Four cards, a first size that is too large to cut anything off and a second one of three. -/
theorem takes_cut_of_four :
    let card (name : String) : Card :=
      { id := .text name, name := .text name, description := .text "", columnId := .text "c1"
        labelIds := [], position := 1.0, url := .text "", shortUrl := .text "" }
    let cards := [card "a", card "b", card "c", card "d"]
    let program : Program :=
      { board := "ENG"
        tasks := [("top 9", .take .pipe 9 .top), ("bottom 9", .take .pipe 9 .bottom),
          ("top 3", .take .pipe 3 .top), ("bottom 3", .take .pipe 3 .bottom),
          ("bottom 1", .take .pipe 1 .bottom), ("turn", .order .reverse .pipe)] }
    let executor := inMemory program (.text "b1") .standard
    let world : World Memory := { service := { cards }, draws := { number := fun _ => 0 } }
    let gives steps kept :=
      (executor.evaluate (executor.enter []) (.flow steps) (.holding cards)).Observes
        executor.service world (.holding kept)
    gives ["top 9", "top 3"] [card "a", card "b", card "c"] ∧
      gives ["turn", "top 3", "turn"] [card "b", card "c", card "d"] ∧
      ∃ above below, gives ["top 3"] above ∧ gives ["bottom 1"] below ∧ above ++ below = cards := by
  intro card cards program executor world gives
  have ready (name : String) (body : Body) (defined : executor.program.body? name = some body) :
      executor.Ready [] name body :=
    ⟨defined, List.not_mem_nil, by rfl⟩
  let ninth : End → String := fun side => side.place.word ++ " 9"
  let third : End → String := fun side => side.place.word ++ " 3"
  have ninthReady side : executor.Ready [] (ninth side) (.take .pipe 9 side.place) := by
    cases side <;> exact ready _ _ (by rfl)
  have thirdReady side : executor.Ready [] (third side) (.take .pipe 3 side.place) := by
    cases side <;> exact ready _ _ (by rfl)
  obtain ⟨⟨above, below, top, bottom, front, back, long, long'⟩, both, turned, parts⟩ :=
    takes_cut executor cards ninthReady thirdReady thirdReady (ready "turn" _ (by rfl))
      (ready "bottom 1" _ (by rfl)) world
  obtain rfl : above = [card "a", card "b", card "c"] := by
    rw [List.prefix_iff_eq_take.mp front, long]
    rfl
  obtain rfl : below = [card "b", card "c", card "d"] := by
    rw [List.suffix_iff_eq_drop.mp back, long']
    rfl
  obtain ⟨kept, single, twice⟩ := both .top
  obtain ⟨kept', single', around⟩ := turned
  cases top.unique single
  cases bottom.unique single'
  exact ⟨twice, around, parts (by decide) (by decide)⟩

end Kanban.Executor
