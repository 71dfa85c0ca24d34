import Kanban.Proofs.Executor.Threading

namespace Kanban

open Memory (CardsNamed)

namespace Text

theorem charsAtMost_iff {chars others : List Char} :
    charsAtMost chars others = true ↔ ¬ List.Lex (· < ·) others chars := by
  induction chars generalizing others with
  | nil => exact iff_of_true rfl nofun
  | cons c rest ih =>
      cases others with
      | nil => exact iff_of_false Bool.false_ne_true (not_not_intro .nil)
      | cons d more =>
          simp only [charsAtMost, Bool.or_eq_true, Bool.and_eq_true, decide_eq_true_eq, beq_iff_eq,
            ih, List.cons_lex_cons_iff, not_or, not_and]
          have less : d < c ↔ d.toNat < c.toNat := Iff.rfl
          rw [less, ← Char.toNat_inj]
          constructor
          · rintro (before | ⟨same, onward⟩)
            · exact ⟨by omega, by omega⟩
            · exact ⟨by omega, fun _ => onward⟩
          · intro notLess
            by_cases same : c.toNat = d.toNat
            · exact Or.inr ⟨same, notLess.2 same.symm⟩
            · exact Or.inl (by omega)

theorem atMost_iff {s t : String} : atMost s t = true ↔ s ≤ t :=
  charsAtMost_iff

end Text

/-- Cards rearranged so that their names ascend by code point and those of one name stand as they
stood. -/
structure SortedByName (cards sorted : List Card) : Prop where
  rearranged : sorted.Perm cards
  ascending : sorted.Pairwise fun card later => card.title ≤ later.title
  stable : ∀ name, sorted.filter (·.title == name) = cards.filter (·.title == name)

variable {cards sorted other : List Card}

namespace SortedByName

open Executor (titleAtMost nameAtMost)

theorem alike_title (card : Card) :
    Sorting.alike titleAtMost card = (·.title == card.title) := by
  funext other
  rw [Bool.eq_iff_iff, Sorting.alike, Bool.and_eq_true, beq_iff_eq]
  simp only [titleAtMost, Text.atMost_iff]
  constructor
  · rintro ⟨before, behind⟩
    exact String.le_antisymm behind before
  · intro same
    rw [same]
    exact ⟨String.le_refl _, String.le_refl _⟩

theorem stableSort (byName : SortedByName cards sorted) :
    Sorting.StableSort titleAtMost cards sorted where
  ascending := byName.ascending.imp Text.atMost_iff.mpr
  kept card := by
    rw [alike_title]
    exact byName.stable card.title

theorem settled (byName : SortedByName cards sorted) : SortedByName sorted sorted :=
  ⟨.refl _, byName.ascending, fun _ => rfl⟩

theorem unique (byName : SortedByName cards sorted) (again : SortedByName cards other) :
    other = sorted :=
  again.stableSort.unique Executor.titleAtMost_total byName.stableSort

theorem mergeSort (named : CardsNamed cards) :
    SortedByName cards (cards.mergeSort nameAtMost) := by
  have perm := List.mergeSort_perm cards nameAtMost
  have stable := Sorting.stableSort_mergeSort Executor.titleAtMost_trans
    Executor.titleAtMost_total cards
  rw [← Executor.mergeSort_named named] at stable
  refine ⟨perm, stable.ascending.imp Text.atMost_iff.mp, fun name => ?_⟩
  by_cases borne : ∃ card ∈ cards, card.title = name
  · obtain ⟨card, _, rfl⟩ := borne
    exact alike_title card ▸ stable.kept card
  · have nameless : cards.filter (·.title == name) = [] := by
      rw [List.filter_eq_nil_iff]
      intro card member same
      exact borne ⟨card, member, eq_of_beq same⟩
    have sortedNone := perm.filter (·.title == name)
    rw [nameless] at sortedNone
    rw [nameless, sortedNone.eq_nil]

theorem names_eq {others resorted : List Card} (named : CardsNamed cards)
    (same : others.Perm cards) (byName : SortedByName cards sorted)
    (again : SortedByName others resorted) :
    resorted.map (·.name) = sorted.map (·.name) := by
  -- Both lists of titles ascend, and they are rearrangements of one another.
  have titles : resorted.map (·.title) = sorted.map (·.title) := by
    apply List.Perm.eq_of_pairwise (fun _ _ _ _ => String.le_antisymm)
      (List.pairwise_map.mpr again.ascending) (List.pairwise_map.mpr byName.ascending)
    exact ((again.rearranged.trans same).trans byName.rearranged.symm).map _
  have texts {list : List Card} (perm : list.Perm cards) :
      list.map (·.name) = (list.map (·.title)).map .text := by
    rw [List.map_map]
    apply List.map_congr_left
    exact fun card member => Card.name_title (named card (perm.subset member))
  rw [texts (again.rearranged.trans same), texts byName.rearranged, titles]

end SortedByName

namespace Executor

variable {executor : Executor σ} {underWay : List String} {source : Source} {pipeline : Pipeline}
  {world fetched : World σ}

def arranged (kind : OrderKind) (draws : Draws) (cards : List Card) : List Card :=
  match kind with
  | .shuffle => (draws.shuffle cards).1
  | .sort => cards.mergeSort nameAtMost
  | .reverse => cards.reverse

theorem arranged_perm (kind : OrderKind) (draws : Draws) (cards : List Card) :
    (arranged kind draws cards).Perm cards := by
  cases kind with
  | shuffle => exact draws.shuffle_perm cards
  | sort => exact List.mergeSort_perm cards nameAtMost
  | reverse => exact List.reverse_perm cards

theorem order_arranges (kind : OrderKind)
    (given : executor.fetch source pipeline world = (.ok cards, fetched))
    (named : CardsNamed cards) :
    ∃ later, executor.order kind source pipeline world =
      (.ok (.holding (arranged kind fetched.draws cards)), later) := by
  have sourced : executor.sourceCards source pipeline world = (.ok cards, _) :=
    Run.bind_of_ok given
  rw [order, Run.bind_of_ok sourced]
  cases kind with
  | shuffle | reverse => exact ⟨_, rfl⟩
  | sort =>
      simp only [sortByName_named named]
      exact ⟨_, rfl⟩

theorem sort_always (named : CardsNamed cards) :
    (executor.order .sort .pipe (.holding cards)).Always
      (.holding (cards.mergeSort nameAtMost)) := by
  intro world
  have given : executor.fetch .pipe (.holding cards) world = (.ok cards, world) := rfl
  obtain ⟨later, ended⟩ := order_arranges .sort given named
  rw [ended]
  rfl

theorem reverse_always :
    (executor.order .reverse .pipe (.holding cards)).Always (.holding cards.reverse) :=
  fun _ => rfl

/-- Orders from a source, and orders that follow them in a flow.  Each of them rearranges the cards
of the source and only reads from the board.  Sorting gives the only stable rearrangement in which
names ascend, and it gives the same names whatever order came before it; sorting or reversing twice
is sorting once or doing nothing. -/
theorem orders_rearrange (executor : Executor σ) {underWay : List String} {source : Source}
    {first again : OrderKind → String}
    (begins : ∀ kind, executor.Ready underWay (first kind) (.order kind source))
    (follows : ∀ kind, executor.Ready underWay (again kind) (.order kind .pipe))
    {pipeline : Pipeline} {world fetched : World σ} {cards : List Card}
    (given : executor.fetch source pipeline world = (.ok cards, fetched))
    (named : CardsNamed cards) :
    let flow steps := executor.evaluate (executor.enter underWay) (.flow steps) pipeline
    let gives steps arranged :=
      (flow steps).Observes executor.service world (.holding arranged)
    (∀ kind, ∃ arranged, gives [first kind] arranged ∧ arranged.Perm cards) ∧
    (∃ sorted, gives [first .sort] sorted ∧ SortedByName cards sorted ∧
      (∀ other, SortedByName cards other → other = sorted) ∧
      gives [first .sort, again .sort] sorted ∧
      ∀ kind, ∃ resorted, gives [first kind, again .sort] resorted ∧ resorted.Perm cards ∧
        resorted.map (·.name) = sorted.map (·.name)) ∧
    gives [first .reverse] cards.reverse ∧ gives [first .reverse, again .reverse] cards := by
  intro flow gives
  have starts kind : executor.ReadyToRead underWay (first kind, .order kind source) :=
    ⟨begins kind, rfl, rfl⟩
  have goesOn kind : executor.ReadyToRead underWay (again kind, .order kind .pipe) :=
    ⟨follows kind, rfl, rfl⟩
  have one kind : gives [first kind] (arranged kind fetched.draws cards) := by
    obtain ⟨later, ended⟩ := executor.order_arranges kind given named
    exact flow_observes [(first kind, .order kind source)] (by simpa using starts kind)
      (Run.Always.onward ended (.pure _))
  have two kind next {result : List Card}
      (always : (executor.order next .pipe
        (.holding (arranged kind fetched.draws cards))).Always (.holding result)) :
      gives [first kind, again next] result := by
    obtain ⟨later, ended⟩ := executor.order_arranges kind given named
    exact flow_observes [(first kind, .order kind source), (again next, .order next .pipe)]
      (by simp [starts, goesOn]) (Run.Always.onward ended (always.bind (.pure _)))
  have byName := SortedByName.mergeSort named
  have rearranged kind : (arranged kind fetched.draws cards).Perm cards :=
    arranged_perm kind _ cards
  have arrangedNamed kind : CardsNamed (arranged kind fetched.draws cards) :=
    fun card member => named card ((rearranged kind).subset member)
  have resorted kind := two kind .sort (sort_always (arrangedNamed kind))
  have still : (cards.mergeSort nameAtMost).mergeSort nameAtMost =
      cards.mergeSort nameAtMost :=
    byName.settled.unique (.mergeSort (arrangedNamed .sort))
  refine ⟨fun kind => ⟨_, one kind, rearranged kind⟩,
    ⟨_, one .sort, byName, fun _ => byName.unique, ?_, fun kind => ⟨_, resorted kind, ?_, ?_⟩⟩,
    one .reverse, ?_⟩
  · have twice := resorted .sort
    rw [arranged, still] at twice
    exact twice
  · exact (List.mergeSort_perm _ nameAtMost).trans (rearranged kind)
  · exact SortedByName.names_eq named (rearranged kind) byName
      (.mergeSort (arrangedNamed kind))
  · exact cards.reverse_reverse ▸ two .reverse .reverse reverse_always

/-- Two of the four cards have one name, and of the other two names one begins with a capital and
the other one with a letter beyond the first alphabet. -/
theorem orders_rearrange_of_four :
    let card (id name : String) : Card :=
      { id := .text id, name := .text name, description := .text "", columnId := .text "c1"
        labelIds := [], position := 1.0, url := .text "", shortUrl := .text "" }
    let cards := [card "k1" "élan", card "k2" "zebra", card "k3" "Bite", card "k4" "zebra"]
    let sorted := [card "k3" "Bite", card "k2" "zebra", card "k4" "zebra", card "k1" "élan"]
    let source := Source.column "Inbox"
    let program : Program :=
      { board := "ENG"
        tasks := [("shuffle inbox", .order .shuffle source), ("sort inbox", .order .sort source),
          ("reverse inbox", .order .reverse source), ("shuffle", .order .shuffle .pipe),
          ("sort", .order .sort .pipe), ("reverse", .order .reverse .pipe)] }
    let executor := inMemory program (.text "b1") .standard
    let inbox : Column := { id := .text "c1", name := .text "Inbox", closed := false }
    let world : World Memory :=
      { service := { columns := [(.text "b1", [inbox])], cards }
        draws := { number := fun _ => 2 } }
    let gives steps arranged :=
      (executor.evaluate (executor.enter []) (.flow steps) .start).Observes executor.service world
        (.holding arranged)
    CardsNamed cards ∧ gives ["sort inbox"] sorted ∧ gives ["sort inbox", "sort"] sorted ∧
      (∃ resorted, gives ["shuffle inbox", "sort"] resorted ∧
        resorted.map (·.name) = sorted.map (·.name)) ∧
      gives ["reverse inbox", "reverse"] cards := by
  intro card cards sorted source program executor inbox world gives
  have named : CardsNamed cards := by
    simp [CardsNamed, cards, card, Tree.isText]
  have ready (name : String) (body : Body) (defined : executor.program.body? name = some body) :
      executor.Ready [] name body :=
    ⟨defined, List.not_mem_nil, by rfl⟩
  have begins kind : executor.Ready [] (kind.word ++ " inbox") (.order kind source) := by
    cases kind <;> exact ready _ _ (by rfl)
  have follows kind : executor.Ready [] kind.word (.order kind .pipe) := by
    cases kind <;> exact ready _ _ (by rfl)
  have held : (executor.fetch source .start world).1 = .ok cards := by rfl
  have given : executor.fetch source .start world = (.ok cards, _) := Prod.ext held rfl
  have byName : SortedByName cards sorted := by
    refine ⟨?_, by decide +kernel, fun name => ?_⟩
    · change List.Perm ([card "k3" "Bite", card "k2" "zebra", card "k4" "zebra"] ++ _) cards
      exact (List.perm_append_singleton (card "k1" "élan") _).trans (.cons _ (.swap ..))
    · rcases eq_or_ne name "zebra" with rfl | zebra
      · rfl
      · rcases eq_or_ne name "Bite" with rfl | bite
        · rfl
        · simp [sorted, cards, card, Card.title, List.filter_cons, zebra.symm, bite.symm]
  obtain ⟨-, ⟨found, once, -, only, twice, again⟩, -, back⟩ :=
    orders_rearrange executor begins follows given named
  obtain rfl : sorted = found := only sorted byName
  obtain ⟨resorted, shuffled, -, names⟩ := again .shuffle
  exact ⟨named, once, twice, ⟨resorted, shuffled, names⟩, back⟩

end Executor

end Kanban
