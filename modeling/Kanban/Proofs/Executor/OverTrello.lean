import Kanban.Proofs.Executor.Unsigned
import Kanban.Proofs.Executor.Unstuck
import Kanban.Proofs.Trello.Mirrors

/-!
Runs over Trello.  Where the session of the client has a board in memory behind it, a run goes as it
does over such a board itself: construct by construct, both make calls that agree and hand on
pipelines that are alike.
-/
namespace Kanban

/-- The same cards but for the signs of zeros, all of them well typed and known. -/
structure CardsAlike (known : List Tree) (cards others : List Card) : Prop where
  same : cards = others.map Card.unsigned
  sound : ∀ card ∈ others, card.Typed ∧ card.id ∈ known

structure PipesAlike (known : List Tree) (pipeline other : Pipeline) : Prop where
  phase : pipeline.phase = other.phase
  cards : CardsAlike known pipeline.items other.items

inductive EntrancesAlike (known : List Tree) : Entrance → Entrance → Prop where
  | fresh : EntrancesAlike known .fresh .fresh
  | continuing {pipeline other : Pipeline} :
      PipesAlike known pipeline other →
      EntrancesAlike known (.continuing pipeline) (.continuing other)

namespace CardsAlike

variable {known later : List Tree} {cards others : List Card}

theorem mono (alike : CardsAlike known cards others) (more : known ⊆ later) :
    CardsAlike later cards others :=
  ⟨alike.same, fun card member => (alike.sound card member).imp_right (more ·)⟩

theorem length (alike : CardsAlike known cards others) : cards.length = others.length := by
  rw [alike.same, List.length_map]

theorem chosen (choose : List Card → List Card) (alike : CardsAlike known cards others)
    (natural : choose (others.map Card.unsigned) = (choose others).map Card.unsigned)
    (subset : choose others ⊆ others) : CardsAlike known (choose cards) (choose others) :=
  ⟨alike.same ▸ natural, fun card member => alike.sound card (subset member)⟩

theorem holding (alike : CardsAlike known cards others) :
    PipesAlike known (.holding cards) (.holding others) :=
  ⟨rfl, alike⟩

end CardsAlike

namespace PipesAlike

variable {known later : List Tree} {pipeline other : Pipeline}

theorem mono (alike : PipesAlike known pipeline other) (more : known ⊆ later) :
    PipesAlike later pipeline other :=
  ⟨alike.phase, alike.cards.mono more⟩

theorem start : PipesAlike known .start .start :=
  ⟨rfl, rfl, nofun⟩

theorem finished : PipesAlike known .finished .finished :=
  ⟨rfl, rfl, nofun⟩

theorem unsigned (alike : PipesAlike known pipeline other) : pipeline = other.unsigned := by
  obtain ⟨phase, items⟩ := pipeline
  obtain ⟨samePhase, sameItems, _⟩ := alike
  dsimp only at samePhase sameItems
  rw [samePhase, sameItems]
  rfl

end PipesAlike

namespace Executor

def overTrello (client : Trello) (display : Tree → String) (program : Program) (board : Tree)
    (limit : DepthLimit) : Executor Memory where
  program := program
  service := client.service (client.session display)
  board := board
  limit := limit

variable {client : Trello} (display : Tree → String) (program : Program) {board : Tree}
  (limit : DepthLimit) {known : List Tree}

theorem pipeCards_mirrors {pipeline other : Pipeline} (alike : PipesAlike known pipeline other) :
    Run.Mirrors client known CardsAlike (pipeCards pipeline) (pipeCards other) := by
  refine .ofExcept fun later more => ?_
  unfold Pipeline.cards
  rw [alike.phase]
  split
  · exact .ok (alike.cards.mono more)
  · exact .error _

theorem choice_mirrors (choose : List Card → Except Misuse (List Card)) {cards others : List Card}
    (alike : CardsAlike known cards others)
    (natural : choose (others.map Card.unsigned) = List.map Card.unsigned <$> choose others)
    (subset : ∀ {chosen}, choose others = .ok chosen → chosen ⊆ others) :
    Run.Mirrors client known CardsAlike (Run.ofExcept .misuse (choose cards))
      (Run.ofExcept .misuse (choose others)) := by
  refine .ofExcept fun later more => ?_
  rw [alike.same, natural]
  cases chooses : choose others with
  | error cause => exact .error _
  | ok chosen =>
      exact .ok ⟨rfl, fun card member => (alike.mono more).sound card (subset chooses member)⟩

theorem landing_mirrors (place : Place) {column : Tree} (columnIdentified : column.IsIdentifier) :
    Run.Mirrors client known (fun _ place spot => place.unsigned = spot.unsigned)
      ((overTrello client display program board limit).landing place column)
      ((inMemory program board limit).landing place column) := by
  cases place with
  | top => exact .pure fun _ _ => rfl
  | bottom => exact .pure fun _ _ => rfl
  | random =>
      refine .bind (.ask display (.cardsIn columnIdentified))
        fun later cards given _ ⟨same, _⟩ => ?_
      have positions : ascending (cards.map (·.position)) =
          (ascending (given.map (·.position))).map Number.unsigned := by
        rw [same, ← ascending_unsigned]
        simp only [Service.Call.kept, List.map_map]
        rfl
      dsimp only
      rw [positions, List.length_map]
      refine .bind (.drawSame _) fun _ slot drawn _ same => ?_
      rw [same]
      exact .pure fun _ _ => inGap_unsigned _ drawn

theorem copyCards_mirrors {target : Column} (targeted : target.id.IsIdentifier) (place : Place)
    {cards others : List Card} (alike : CardsAlike known cards others) :
    Run.Mirrors client known (fun _ _ _ => True)
      ((overTrello client display program board limit).copyCards target place cards)
      ((inMemory program board limit).copyCards target place others) := by
  rw [alike.same]
  have sound := fun card member => (alike.sound card member).1
  clear alike
  induction others generalizing known with
  | nil => exact .pure fun _ _ => trivial
  | cons card rest ih =>
      obtain ⟨id, name, _⟩ := sound card List.mem_cons_self
      refine .bind (landing_mirrors display program limit place targeted)
        fun later spot given _ same => ?_
      refine .bind (.create display targeted name rfl (.inr id) same) fun _ _ _ _ _ => ?_
      exact ih fun other member => sound other (List.mem_cons_of_mem _ member)

theorem moveCards_mirrors {target : Column} (targeted : target.id.IsIdentifier) (place : Place)
    {cards others : List Card} (alike : CardsAlike known cards others) :
    Run.Mirrors client known (fun _ _ _ => True)
      ((overTrello client display program board limit).moveCards target place cards)
      ((inMemory program board limit).moveCards target place others) := by
  rw [alike.same]
  have sound := alike.sound
  clear alike
  -- What is known only grows, so a card that is moved later is still known then.
  induction others generalizing known with
  | nil => exact .pure fun _ _ => trivial
  | cons card rest ih =>
      obtain ⟨typed, present⟩ := sound card List.mem_cons_self
      refine .bind (landing_mirrors display program limit place targeted)
        fun later spot given more same => ?_
      refine .bind (.move display typed.id (more present) targeted same)
        fun _ _ _ further _ => ?_
      exact ih fun other member =>
        (sound other (List.mem_cons_of_mem _ member)).imp_right fun known => further (more known)

section

variable (identified : board.IsIdentifier)
include identified

theorem column_mirrors (name : String) :
    Run.Mirrors client known (fun _ column other => column = other ∧ other.id.IsIdentifier)
      ((overTrello client display program board limit).column name)
      ((inMemory program board limit).column name) := by
  have found : Run.Mirrors client known
      (fun _ found other => found = other ∧ ∀ column, other = some column → column.id.IsIdentifier)
      ((overTrello client display program board limit).service.findColumn board (.text name))
      (Memory.service.findColumn board (.text name)) := by
    refine .bind (.ask display (.columns identified)) fun later value given _ ⟨same, sound⟩ => ?_
    refine .pure fun _ _ => ⟨congrArg (Service.columnNamed? · _) same, fun column chosen => ?_⟩
    exact sound column (List.mem_of_find?_eq_some chosen)
  refine .bind found fun later value given _ ⟨same, sound⟩ => ?_
  rw [same]
  cases given with
  | none => exact .fail _
  | some column => exact .pure fun _ _ => ⟨rfl, sound column rfl⟩

theorem sourceCards_mirrors (source : Source) {pipeline other : Pipeline}
    (alike : PipesAlike known pipeline other) :
    Run.Mirrors client known CardsAlike
      ((overTrello client display program board limit).sourceCards source pipeline)
      ((inMemory program board limit).sourceCards source other) := by
  have fetched : Run.Mirrors client known CardsAlike
      ((overTrello client display program board limit).fetch source pipeline)
      ((inMemory program board limit).fetch source other) := by
    cases source with
    | pipe => exact pipeCards_mirrors alike
    | board =>
        exact Run.Mirrors.imp (.ask display (.cards identified)) fun _ _ _ ⟨same, sound⟩ =>
          ⟨same, sound⟩
    | column name =>
        refine .bind (column_mirrors display program limit identified name)
          fun later column found _ ⟨same, identified⟩ => ?_
        rw [same]
        exact Run.Mirrors.imp (.ask display (.cardsIn identified)) fun _ _ _ ⟨same, sound⟩ =>
          ⟨same, sound⟩
  refine .bind fetched fun later cards others _ cardsAlike => ?_
  refine .bind (.debug _ _) fun last _ _ more _ => ?_
  exact .pure fun _ further => (cardsAlike.mono more).mono further

theorem take_mirrors (source : Source) (size : Nat) (place : Place) {pipeline other : Pipeline}
    (alike : PipesAlike known pipeline other) :
    Run.Mirrors client known PipesAlike
      ((overTrello client display program board limit).take source size place pipeline)
      ((inMemory program board limit).take source size place other) := by
  refine .bind (sourceCards_mirrors display program limit identified source alike)
    fun later cards others _ cardsAlike => ?_
  dsimp only
  rw [cardsAlike.length]
  split
  · refine .bind (.debug _ _) fun last _ _ more _ => ?_
    have cardsAlike := cardsAlike.mono more
    cases place with
    | top =>
        exact .pure fun _ further => ((cardsAlike.mono further).chosen (List.take size)
          List.map_take.symm (List.take_subset _ _)).holding
    | bottom =>
        exact .pure fun _ further => ((cardsAlike.mono further).chosen (List.drop _)
          List.map_drop.symm (List.drop_subset _ _)).holding
    | random =>
        refine .bind (.drawSame _) fun _ indices drawn more same => ?_
        rw [same]
        exact .pure fun _ further => (((cardsAlike.mono more).mono further).chosen
          (pick · drawn) (pick_map others drawn) (pick_subset others drawn)).holding
  · exact .pure fun _ further => (cardsAlike.mono further).holding

theorem order_mirrors (kind : OrderKind) (source : Source) {pipeline other : Pipeline}
    (alike : PipesAlike known pipeline other) :
    Run.Mirrors client known PipesAlike
      ((overTrello client display program board limit).order kind source pipeline)
      ((inMemory program board limit).order kind source other) := by
  refine .bind (sourceCards_mirrors display program limit identified source alike)
    fun later cards others _ cardsAlike => .bind (.debug _ _) fun last _ _ more _ => ?_
  have cardsAlike := cardsAlike.mono more
  cases kind with
  | shuffle =>
      have shuffled : Run.Mirrors client last CardsAlike
          (Run.draw fun draws => draws.shuffle cards)
          (Run.draw fun draws => draws.shuffle others) := by
        refine .draw fun draws later more => ?_
        rw [cardsAlike.same, Draws.shuffle_map]
        exact ⟨⟨rfl, fun card member =>
          (cardsAlike.mono more).sound card ((draws.shuffle_perm others).subset member)⟩, rfl⟩
      exact .bind shuffled fun _ _ _ _ alike => .pure fun _ more => (alike.mono more).holding
  | sort =>
      exact .bind (choice_mirrors sortByName cardsAlike (sortByName_unsigned others)
        fun sorted => (sortByName_perm sorted).subset)
        fun _ _ _ _ alike => .pure fun _ more => (alike.mono more).holding
  | reverse =>
      exact .pure fun _ further => ((cardsAlike.mono further).chosen List.reverse
        List.map_reverse.symm (List.reverse_subset.mpr (List.Subset.refl _))).holding

theorem select_mirrors (criterion : FilterBy) (value : String) (caseSensitive : Bool)
    {cards others : List Card} (alike : CardsAlike known cards others) :
    Run.Mirrors client known CardsAlike
      ((overTrello client display program board limit).select criterion value caseSensitive cards)
      ((inMemory program board limit).select criterion value caseSensitive others) := by
  cases criterion with
  | name =>
      exact choice_mirrors (keepNamed value caseSensitive) alike
        (keepNamed_unsigned value caseSensitive others) fun kept => (keepNamed_sublist kept).subset
  | label =>
      have found : Run.Mirrors client known (fun _ found other => found = other)
          ((overTrello client display program board limit).service.findLabel board (.text value)
            caseSensitive)
          (Memory.service.findLabel board (.text value) caseSensitive) := by
        refine .bind (.ask display (.labels identified)) fun later labels given _ ⟨same, _⟩ => ?_
        have labels : labels = given := same
        rw [labels]
        refine .ofExcept fun _ _ => ?_
        cases Service.labelNamed? given (.text value) caseSensitive with
        | error cause => exact .error _
        | ok chosen => exact .ok rfl
      refine .bind found fun later label other more same => ?_
      rw [same]
      cases other with
      | none => exact .fail _
      | some label =>
          exact .pure fun _ further => ((alike.mono more).mono further).chosen
            (keepLabelled label) (keepLabelled_unsigned label others) (List.filter_subset_self _)

theorem filter_mirrors (criterion : FilterBy) (value : String) (caseSensitive : Bool)
    {pipeline other : Pipeline} (alike : PipesAlike known pipeline other) :
    Run.Mirrors client known PipesAlike
      ((overTrello client display program board limit).filter criterion value caseSensitive
        pipeline)
      ((inMemory program board limit).filter criterion value caseSensitive other) := by
  refine .bind (pipeCards_mirrors alike) fun later cards others _ cardsAlike => ?_
  refine .bind (select_mirrors display program limit identified criterion value caseSensitive
    cardsAlike) fun last kept given _ keptAlike => ?_
  exact .bind (.debug _ _) fun _ _ _ more _ => .pure fun _ further =>
    ((keptAlike.mono more).mono further).holding

theorem act_mirrors (action : Action) {pipeline other : Pipeline}
    (alike : PipesAlike known pipeline other) :
    Run.Mirrors client known PipesAlike
      ((overTrello client display program board limit).act action pipeline)
      ((inMemory program board limit).act action other) := by
  have ended {later : List Tree} :
      Run.Mirrors client later PipesAlike (pure Pipeline.finished) (pure Pipeline.finished) :=
    .pure fun _ _ => .finished
  cases action with
  | print =>
      refine .bind (pipeCards_mirrors alike) fun later cards others more _ => ?_
      have lines (cards : List Card) : ∀ event ∈ cards.map printLine, event.isLog := by
        simp [printLine, Event.info, Event.isLog]
      exact .bind (.emit (lines cards) (lines others)) fun _ _ _ further _ => .pure fun _ last =>
        ((alike.mono more).mono further).mono last
  | copy target =>
      refine .bind (column_mirrors display program limit identified target.column)
        fun _ column found more chosen => ?_
      obtain ⟨same, targeted⟩ := chosen
      rw [same]
      refine .bind (pipeCards_mirrors (alike.mono more)) fun _ cards others _ cardsAlike => ?_
      refine .bind (.info _ _) fun _ _ _ further _ => ?_
      exact .bind (copyCards_mirrors display program limit targeted target.place
        (cardsAlike.mono further)) fun _ _ _ _ _ => ended
  | move target =>
      refine .bind (column_mirrors display program limit identified target.column)
        fun _ column found more chosen => ?_
      obtain ⟨same, targeted⟩ := chosen
      rw [same]
      refine .bind (pipeCards_mirrors (alike.mono more)) fun _ cards others _ cardsAlike => ?_
      refine .bind (.info _ _) fun _ _ _ further _ => ?_
      exact .bind (moveCards_mirrors display program limit targeted target.place
        (cardsAlike.mono further)) fun _ _ _ _ _ => ended
  | add target card =>
      refine .bind (column_mirrors display program limit identified target.column)
        fun _ column found _ chosen => ?_
      obtain ⟨same, targeted⟩ := chosen
      rw [same]
      refine .bind (.info _ _) fun _ _ _ _ _ => ?_
      refine .bind (landing_mirrors display program limit target.place targeted)
        fun _ spot given _ same => ?_
      exact .bind (.create display targeted rfl rfl (.inl rfl) same) fun _ _ _ _ _ => ended

section

variable {perform follow : Entrance → String → Run Memory Pipeline} {announce : String → String}

omit identified in
theorem inTurn_mirrors {entrance : Pipeline → Entrance} {steps : List String}
    {pipeline other : Pipeline} (alike : PipesAlike known pipeline other)
    (enters : ∀ {later pipeline other}, PipesAlike later pipeline other →
      EntrancesAlike later (entrance pipeline) (entrance other))
    (performs : ∀ {later entrance other}, known ⊆ later → EntrancesAlike later entrance other →
      ∀ step ∈ steps, Run.Mirrors client later PipesAlike (perform entrance step)
        (follow other step)) :
    Run.Mirrors client known PipesAlike (inTurn perform announce entrance steps pipeline)
      (inTurn follow announce entrance steps other) := by
  induction steps generalizing known pipeline other with
  | nil => exact .pure fun _ more => alike.mono more
  | cons step rest ih =>
      refine .bind (.info _ _) fun later _ _ more _ => ?_
      refine .bind (performs more (enters (alike.mono more)) step List.mem_cons_self)
        fun last next given further nextAlike => ?_
      exact ih nextAlike fun beyond entrances later member =>
        performs (List.Subset.trans (List.Subset.trans more further) beyond) entrances later
          (List.mem_cons_of_mem _ member)

theorem evaluate_mirrors (body : Body) {pipeline other : Pipeline}
    (alike : PipesAlike known pipeline other)
    (performs : ∀ {later entrance other}, known ⊆ later → EntrancesAlike later entrance other →
      ∀ step ∈ body.references, Run.Mirrors client later PipesAlike (perform entrance step)
        (follow other step)) :
    Run.Mirrors client known PipesAlike
      ((overTrello client display program board limit).evaluate perform body pipeline)
      ((inMemory program board limit).evaluate follow body other) := by
  cases body with
  | take source size place =>
      exact take_mirrors display program limit identified source size place alike
  | order kind source => exact order_mirrors display program limit identified kind source alike
  | filter criterion value caseSensitive =>
      exact filter_mirrors display program limit identified criterion value caseSensitive alike
  | act action => exact act_mirrors display program limit identified action alike
  | flow steps => exact inTurn_mirrors alike .continuing performs
  | group steps =>
      exact .bind (inTurn_mirrors .start (fun _ => .fresh) performs) fun _ _ _ _ _ =>
        .pure fun _ _ => .finished

end

theorem enter_mirrors (underWay : List String) {entrance other : Entrance} (name : String)
    (alike : EntrancesAlike known entrance other) :
    Run.Mirrors client known PipesAlike
      ((overTrello client display program board limit).enter underWay entrance name)
      ((inMemory program board limit).enter underWay other name) := by
  induction underWay, other, name using enter.induct (inMemory program board limit)
    generalizing known entrance with
  | case1 underWay other name missing =>
      rw [enter_missing (overTrello client display program board limit) missing,
        enter_missing (inMemory program board limit) missing]
      exact .fail _
  | case2 underWay other name body found ih =>
      have begins : Run.Mirrors client known PipesAlike (entrance.begin name)
          (other.begin name) := by
        cases alike with
        | fresh => exact .bind (.info _ _) fun _ _ _ _ _ => .pure fun _ _ => .start
        | continuing alike => exact .pure fun _ more => alike.mono more
      rw [enter_found (overTrello client display program board limit) found,
        enter_found (inMemory program board limit) found]
      refine .bind begins fun later pipeline given _ alike => ?_
      split
      next => exact .fail _
      next outside =>
        simp only [overTrello, inMemory]
        split
        next => exact .fail _
        next => exact .fail _
        next =>
          refine evaluate_mirrors display program limit identified body alike ?_
          exact fun _ entrances step _ => ih outside _ step entrances

end

theorem start_mirrors :
    Run.Mirrors client known
      (fun _ executor other => ∃ board : Tree, board.IsIdentifier ∧
        executor = overTrello client display program board limit ∧
        other = inMemory program board limit)
      (start program (client.service (client.session display)) limit)
      (start program Memory.service limit) := by
  have found : Run.Mirrors client known
      (fun _ found other => found = other ∧ ∀ board, other = some board → board.id.IsIdentifier)
      ((client.service (client.session display)).findBoard (.text program.board))
      (Memory.service.findBoard (.text program.board)) := by
    refine .bind (.ask display .boards) fun later boards given _ ⟨same, sound⟩ => ?_
    have chosen : Service.boardNamed? boards (.text program.board) =
        Service.boardNamed? given (.text program.board) := by
      rw [same]
      unfold Service.boardNamed? Service.Call.kept
      rw [List.find?_filter]
      congr 1
      funext board
      simp
    exact .pure fun _ _ => ⟨chosen, fun board found =>
      sound board (List.mem_of_find?_eq_some found)⟩
  refine .bind found fun later value given _ ⟨same, identified⟩ => ?_
  rw [same]
  cases given with
  | none => exact .fail _
  | some board => exact .pure fun _ _ => ⟨board.id, identified board rfl, rfl, rfl⟩

def launched (service : Service Memory) (program : Program) (limit : DepthLimit) (name : String) :
    Run Memory Pipeline := do
  let executor ← start program service limit
  executor.run name

theorem launched_mirrors (name : String) :
    Run.Mirrors client known PipesAlike
      (launched (client.service (client.session display)) program limit name)
      (launched Memory.service program limit name) := by
  refine .bind (start_mirrors display program limit) fun later executor other _ started => ?_
  obtain ⟨board, identified, rfl, rfl⟩ := started
  exact enter_mirrors display program limit identified [] name .fresh

/-- A run over a client of Trello ends as it does over the board that its session has behind it,
with the same pipeline or the same failure.  It sends one request for every call to the board, in
the same order, from which that call can be read back, draws the same numbers and leaves the same
board.  The same means up to the signs of zeros: a client takes both zeros for the one without a
sign, and they are equal as numbers. -/
theorem runs_over_trello_agree (client : Trello) (display : Tree → String) (program : Program)
    (limit : DepthLimit) (name : String) {memory : Memory} (typed : memory.Typed)
    (upright : memory.failAt = none) (draws : Draws) :
    let start : World Memory := { service := memory, draws }
    let sent := launched (client.service (client.session display)) program limit name start
    let own := launched Memory.service program limit name start
    sent.1 = Pipeline.unsigned <$> own.1 ∧
    client.Tells (Event.requests sent.2.trace) (Event.calls own.2.trace) ∧
    sent.2.draws = own.2.draws ∧ sent.2.service.unsigned = own.2.service.unsigned := by
  intro start sent own
  have begins : start.Mirrors client start := ⟨⟨rfl, typed, upright⟩, rfl, rfl⟩
  obtain ⟨ended, left, _⟩ :=
    launched_mirrors display program limit name start start begins (List.nil_subset _)
  refine ⟨?_, left.told, left.draws, left.boards.same⟩
  change Run.EndsAlike _ sent.1 own.1 at ended
  generalize sent.1 = result at ended ⊢
  generalize own.1 = other at ended ⊢
  cases ended with
  | ok alike => exact congrArg Except.ok alike.unsigned
  | error failure => rfl

/-- Cards are moved into a gap that is drawn, next to one whose position is zero. -/
theorem runs_over_trello_agree_of_sweep :
    let client : Trello :=
      { key := .text "k", token := .text "t", base := Trello.defaultBase
        timeout := Trello.defaultTimeout }
    let card (id column : String) (position : Float) : Card :=
      { id := .text id, name := .text "A", description := .text "", columnId := .text column
        labelIds := [], position, url := .text "", shortUrl := .text "" }
    let memory : Memory :=
      { boards := [⟨.text "b0", .text "ENG", true⟩, ⟨.text "b1", .text "ENG", false⟩]
        columns := [(.text "b1",
          [⟨.text "c1", .text "Inbox", false⟩, ⟨.text "c2", .text "Done", false⟩])]
        cards := [card "k1" "c1" 1, card "k2" "c1" 2, card "k3" "c2" 0] }
    let program : Program :=
      { board := "ENG"
        tasks := [("sweep", .flow ["inbox", "away"]), ("inbox", .take (.column "Inbox") 0 .top),
          ("away", .act (.move { column := "Done", place := .random }))] }
    memory.Typed ∧ memory.failAt = none ∧ ∀ draws : Draws,
      let start : World Memory := { service := memory, draws }
      let sent := launched (client.service (client.session Tree.literal)) program .standard "sweep"
        start
      let own := launched Memory.service program .standard "sweep" start
      sent.1 = Pipeline.unsigned <$> own.1 ∧
        client.Tells (Event.requests sent.2.trace) (Event.calls own.2.trace) := by
  intro client card memory program
  have identifier (s : String) (occupied : s ≠ "") : (Tree.text s).IsIdentifier :=
    ⟨s, rfl, occupied⟩
  have cardTyped (id column : String) (position : Float) (occupied : id ≠ "") :
      (card id column position).Typed :=
    ⟨identifier id occupied, rfl, rfl⟩
  have typed : memory.Typed := by
    constructor
    · simp [memory, identifier]
    · simp [memory, identifier]
    · simp [memory]
    · simp [memory, cardTyped]
  refine ⟨typed, rfl, fun draws => ?_⟩
  obtain ⟨same, told, _⟩ := runs_over_trello_agree client Tree.literal program .standard "sweep"
    typed rfl draws
  exact ⟨same, told⟩

end Executor

end Kanban
