import Kanban.Proofs.Executor.Fresh
import Kanban.Proofs.Service.Memory.Permission

/-!
Runs keep to the board that the executor was given.  The cards in the pipe are in columns of this
board whenever one of them is to be copied or moved, and what has been done to the cards before it
in the pipe does not change that.
-/
namespace Kanban.Executor

variable {program : Program} {board : Tree} {limit : DepthLimit} {pipeline result : Pipeline}
  {world later : World Memory}

theorem landing_kept {place : Place} {columnId : Tree} {landing : Landing Float}
    (placed : (inMemory program board limit).landing place columnId world = (.ok landing, later)) :
    later.service = world.service := by
  have kept := (landing_reads program board limit place columnId).board_kept id world
  rwa [placed] at kept

theorem landing_permitted (place : Place) (columnId : Tree) :
    ((inMemory program board limit).landing place columnId).Permitted board world :=
  .of_alike (landing_reads program board limit place columnId) id

/-- Writing the first card of the pipe is permitted, and the board may be written to with the others
if the write does not move them. -/
theorem write_permitted {target : Column} {place : Place} {card : Card} {rest : List Card}
    (write : Landing Float → Service.Call α) {onward : Run Memory Unit}
    (identified : world.service.Identified) (known : target ∈ world.service.columnsOf board)
    (current : world.service.Current board (card :: rest))
    (permits : ∀ landing (memory : Memory), target ∈ memory.columnsOf board →
      memory.Names board card.id → memory.Permits board (write landing).recorded)
    (spares : ∀ landing, ∀ other ∈ rest, ∀ id columnId position,
      (write landing).recorded = .move id columnId position → other.id.same id = false)
    (permitted : ∀ after : World Memory, after.service.Identified →
      target ∈ after.service.columnsOf board → after.service.Current board rest →
      onward.Permitted board after) :
    Run.Permitted board (do
      let landing ← (inMemory program board limit).landing place target.id
      let _ ← Run.ask (Memory.service.answer (write landing))
      onward) world := by
  refine .bind (landing_permitted place target.id) fun landing between placed => ?_
  rw [← landing_kept placed] at identified known current
  have named := identified.names (current.present card (by simp))
  refine .bind (.ask (write landing) (permits landing _ known named)) fun _ after asked => ?_
  have step : after.service = between.service.after (write landing).recorded := by
    have leads := World.LeadsTo.ask between (write landing)
    rw [asked] at leads
    exact leads.service
  have others := current.subperm (List.sublist_cons_self card rest).subperm
  refine permitted after ?_ ?_ ?_
  · exact step ▸ identified.after _
  · rwa [step, Memory.columnsOf_after]
  · exact step ▸ others.after (spares landing)

theorem copyCards_permitted {target : Column} {place : Place} {cards : List Card}
    (identified : world.service.Identified) (known : target ∈ world.service.columnsOf board)
    (current : world.service.Current board cards) :
    ((inMemory program board limit).copyCards target place cards).Permitted board world := by
  induction cards generalizing world with
  | nil => exact .pure ()
  | cons card rest ih =>
      let draft (landing : Landing Float) : Draft :=
        { column := target.id, name := card.name, position := position landing, source := card.id }
      refine write_permitted (fun landing => .create (draft landing)) identified known current ?_ ?_
        fun after => ih
      · intro landing memory known named
        exact ⟨⟨target, known, rfl⟩, fun _ => named⟩
      · intro landing other member id columnId position moved
        cases moved

theorem moveCards_permitted {target : Column} {place : Place} {cards : List Card}
    (identified : world.service.Identified) (known : target ∈ world.service.columnsOf board)
    (current : world.service.Current board cards) :
    ((inMemory program board limit).moveCards target place cards).Permitted board world := by
  induction cards generalizing world with
  | nil => exact .pure ()
  | cons card rest ih =>
      refine write_permitted (fun landing => .move card.id target.id (position landing)) identified
        known current ?_ ?_ fun after => ih
      · intro landing memory known named
        exact ⟨⟨target, known, rfl⟩, named⟩
      · intro landing other member id columnId position moved
        cases moved
        -- The pipe has no other card of this identifier, so none that the move would change.
        exact ((List.pairwise_cons.mp current.apart).1 other member).2

theorem column_permitted (name : String) :
    ((inMemory program board limit).column name).Permitted board world :=
  .of_alike (column_reads program board limit name) id

theorem bring_permitted {name : String} {message : Column → List Card → String}
    {bring : Column → List Card → Run Memory Unit} (identified : world.service.Identified)
    (fresh : pipeline.Fresh board world.service)
    (permitted : ∀ column cards world, world.service.Identified →
      column ∈ world.service.columnsOf board → world.service.Current board cards →
      (bring column cards).Permitted board world) :
    Run.Permitted board (do
      let column ← (inMemory program board limit).column name
      let cards ← pipeCards pipeline
      Run.info (message column cards)
      bring column cards
      return Pipeline.finished) world := by
  refine .bind (column_permitted name) fun column located found => ?_
  obtain ⟨known, kept⟩ := column_found found
  rw [← kept] at identified known fresh
  refine .bind (.ofExcept _ _) fun cards taken taking => ?_
  obtain ⟨held, rfl⟩ := Run.ofExcept_returned taking
  refine .bind (.info _) fun _ announced announcing => ?_
  cases announcing
  exact .bind (permitted column cards _ identified known (fresh.current held))
    fun _ _ _ => .pure Pipeline.finished

theorem act_permitted {action : Action} (identified : world.service.Identified)
    (fresh : pipeline.Fresh board world.service) :
    ((inMemory program board limit).act action pipeline).Permitted board world := by
  cases action with
  | print =>
      have reads : (Body.act .print).writes = false := rfl
      exact .of_alike (evaluate_reads program board limit (fun _ _ => pure pipeline) rfl reads _) id
  | copy target =>
      exact bring_permitted identified fresh fun _ _ _ => copyCards_permitted
  | move target =>
      exact bring_permitted identified fresh fun _ _ _ => moveCards_permitted
  | add target card =>
      refine .bind (column_permitted target.column) fun column located found => ?_
      obtain ⟨known, kept⟩ := column_found found
      refine .bind (.info _) fun _ announced announcing => ?_
      cases announcing
      refine .bind (landing_permitted target.place column.id) fun landing placed placing => ?_
      rw [← kept] at known
      have same := landing_kept placing
      rw [← same] at known
      exact .bind (.create ⟨⟨column, known, rfl⟩, fun named => absurd rfl named⟩)
        fun _ _ _ => .pure _

theorem inTurn_permitted {underWay : List String} {announce : String → String}
    {entrance : Pipeline → Entrance} {steps : List String}
    (permitted : ∀ entrance, ∀ step ∈ steps, ∀ world, world.service.Identified →
      entrance.pipeline.Fresh board world.service →
      ((inMemory program board limit).enter underWay entrance step).Permitted board world)
    (entrances : ∀ pipeline memory, pipeline.Fresh board memory →
      (entrance pipeline).pipeline.Fresh board memory)
    (identified : world.service.Identified) (fresh : pipeline.Fresh board world.service) :
    (inTurn ((inMemory program board limit).enter underWay) announce entrance steps
      pipeline).Permitted board world := by
  induction steps generalizing pipeline world with
  | nil => exact .pure pipeline
  | cons step rest ih =>
      refine .bind (.info _) fun _ announced announcing => ?_
      cases announcing
      have entered := entrances pipeline world.service fresh
      refine .bind (permitted _ step (by simp) _ identified entered)
        fun given between performed => ?_
      have stays := enter_keeps program board limit (fun _ call identified => identified.after call)
        performed identified
      have given := enter_fresh underWay _ step _ _ _ performed identified.toDistinct entered
      exact ih (fun entrance other member => permitted entrance other (by simp [member])) stays
        given.2

theorem evaluate_permitted {underWay : List String} {body : Body}
    (permitted : ∀ entrance, ∀ step ∈ body.references, ∀ world, world.service.Identified →
      entrance.pipeline.Fresh board world.service →
      ((inMemory program board limit).enter underWay entrance step).Permitted board world)
    (identified : world.service.Identified) (fresh : pipeline.Fresh board world.service) :
    ((inMemory program board limit).evaluate ((inMemory program board limit).enter underWay) body
      pipeline).Permitted board world := by
  cases body with
  | take | order | filter =>
      exact .of_alike (evaluate_reads program board limit _ rfl rfl pipeline) id
  | act action => exact act_permitted identified fresh
  | group steps =>
      exact .bind (inTurn_permitted permitted
        (fun _ memory _ => Pipeline.start_fresh board memory) identified
        (Pipeline.start_fresh board world.service)) fun _ _ _ => .pure Pipeline.finished
  | flow steps =>
      exact inTurn_permitted permitted (Entrance.continuing_fresh board) identified fresh

theorem enter_permitted {underWay : List String} {entrance : Entrance} {name : String}
    (identified : world.service.Identified)
    (fresh : entrance.pipeline.Fresh board world.service) :
    ((inMemory program board limit).enter underWay entrance name).Permitted board world := by
  induction underWay, entrance, name using enter.induct (inMemory program board limit)
    generalizing world with
  | case1 underWay entrance name missing =>
      rw [enter_missing _ missing]
      exact .fail _
  | case2 underWay entrance name body found ih =>
      rw [enter_found _ found]
      refine .bind ?_ fun pipeline begun begins => ?_
      · cases entrance with
        | fresh => exact .bind (.info _) fun _ _ _ => .pure _
        | continuing pipeline => exact .pure _
      · rw [← Entrance.begin_service begins] at identified fresh
        rw [Entrance.begin_apply] at begins
        cases begins
        split
        next => exact .fail _
        next outside =>
          split
          next => exact .fail _
          next => exact .fail _
          next =>
            exact evaluate_permitted (fun entrance step _ world identified fresh =>
              ih outside entrance step identified fresh) identified fresh

theorem cardMissing_not_refusal (id : Tree) : ¬ Refusal (.ofRun (.cardMissing id)) := by
  generalize raised : Failure.ofRun (.cardMissing id) = failure
  intro refusal
  cases refusal with
  | fault fault => cases fault <;> cases raised
  | taskMissing | selfReference => cases raised
  | tooDeep limit name => cases Failure.tooDeep_trouble raised.symm

/-- Every write of a run names a column of the board that the executor was given, and every card
that it moves or copies is in such a column at that moment.  So no card is ever missing, and the
cards of other boards stay as they are. -/
theorem writes_keep_to_board {start : World Memory} (identified : start.service.Identified)
    (separate : start.service.ColumnsApart) (name : String) :
    let ended := (inMemory program board limit).run name start
    ∃ events, start.LeadsTo events ended.2 ∧
      (∀ before call after, events = before ++ .call call :: after →
        (start.service.replay before).Permits board call) ∧
      (∀ id, (RunTrouble.cardMissing id).status? = some 404 ∧
        ended.1 ≠ .error (.ofRun (.cardMissing id))) ∧
      ∀ (other : Tree) (index : Nat) (card : Card), board.same other = false →
        start.service.HasColumn other card.columnId → start.service.cards[index]? = some card →
        ended.2.service.cards[index]? = some card := by
  intro ended
  -- Nothing is in the pipe at the start, so nothing in it is out of date.
  obtain ⟨events, leads, permitted⟩ : Run.Permitted board
      ((inMemory program board limit).enter [] .fresh name) start :=
    enter_permitted identified (Pipeline.start_fresh board start.service)
  refine ⟨events, leads, fun before call after split => permitted.at split, fun id => ⟨rfl, ?_⟩, ?_⟩
  · intro failed
    obtain ⟨before, target, position, same, missing⟩ :=
      (enter_inMemory program board limit [] .fresh name).missing_moved
        (cardMissing_not_refusal id) failed
    have split := List.append_cancel_left (leads.trace.symm.trans same.trace)
    obtain ⟨_, card, _, _, found⟩ := permitted.at split
    rw [missing] at found
    cases found
  · intro other index card different theirs there
    have foreign : ¬ start.service.HasColumn board card.columnId := by
      intro ours
      rw [separate _ board other ours theirs] at different
      cases different
    have reached : ended.2.service = start.service.replay events := leads.service
    rw [reached]
    exact Memory.getElem?_replay permitted there foreign

/-- A run that moves the card of its board leaves the card of the other one alone. -/
theorem writes_keep_to_board_of_move :
    let column (id name : String) : Column :=
      { id := .text id, name := .text name, closed := false }
    let card (id columnId : String) : Card :=
      { id := .text id, name := .text "A", description := .text "", columnId := .text columnId,
        labelIds := [], position := 1, url := .text "", shortUrl := .text "" }
    let start : World Memory :=
      { service :=
          { columns := [(.text "b1", [column "c1" "To do", column "c2" "Done"]),
              (.text "b2", [column "c3" "Done"])]
            cards := [card "k1" "c1", card "k2" "c3"] }
        draws := { number := fun _ => 0 } }
    let executor := inMemory
      { board := "ENG"
        tasks := [("go", .flow ["all", "shift"]), ("all", .take .board 0 .top),
          ("shift", .act (.move { column := "Done" }))] }
      (.text "b1") .standard
    start.service.Identified ∧ start.service.ColumnsApart ∧
      (executor.run "go" start).1 = .ok .finished ∧
      (executor.run "go" start).2.service.cards[1]? = some (card "k2" "c3") := by
  intro column card start executor
  have named : start.service.ids = ["k1", "k2"].map Tree.text := rfl
  have identified : start.service.Identified := by
    refine Memory.identified_of_names named (by decide) fun number => ?_
    simpa [named] using
      And.intro (Memory.newId_ne_text (by decide) number) (Memory.newId_ne_text (by decide) number)
  have columns (board id : Tree) (has : start.service.HasColumn board id) :
      board = .text "b1" ∧ (id = .text "c1" ∨ id = .text "c2") ∨
        board = .text "b2" ∧ id = .text "c3" := by
    simp only [start, column, Memory.HasColumn, Memory.columnsOf, Memory.rowOf] at has
    by_cases first : board = .text "b1"
    · simpa [first, Tree.same_text_iff] using has
    · by_cases second : board = .text "b2"
      · simpa [second, Tree.same_text_iff] using has
      · rw [← Tree.text_same_iff, Bool.not_eq_true] at first second
        simp [first, second] at has
  have separate : start.service.ColumnsApart := by
    intro id first second inFirst inSecond
    rcases columns first id inFirst with ⟨rfl, here⟩ | ⟨rfl, here⟩ <;>
      rcases columns second id inSecond with ⟨rfl, there⟩ | ⟨rfl, there⟩ <;> simp_all
  have moved : (executor.run "go" start).1 = .ok .finished := by
    have go : executor.program.body? "go" = some (.flow ["all", "shift"]) := by rfl
    have all : executor.program.body? "all" = some (.take .board 0 .top) := by rfl
    have shift : executor.program.body? "shift" = some (.act (.move { column := "Done" })) := by rfl
    have limited (depth : Nat) :
        executor.limit.reachedAt? depth = some (decide ((32 : Int) ≤ depth)) := rfl
    rw [run, enter_found _ go]
    simp [limited, enter_found _ all, enter_found _ shift, evaluate, flow, inTurn, take, act,
      sourceCards, fetch, Run.bind_apply, Run.map_apply, Entrance.begin_apply, Entrance.pipeline]
    simp [executor, start, card, column, inMemory, Memory.service, Memory.cardsOf,
      Memory.columnsOf, Memory.rowOf, Executor.column, Service.findColumn, Service.columnNamed?,
      pipeCards, moveCards, landing, position, Memory.move, Memory.countWrite, Memory.landing,
      Memory.cardsInColumn, Memory.least, Run.bind_apply, Run.map_apply, Run.info, Run.debug]
  obtain ⟨events, _, _, _, kept⟩ := writes_keep_to_board identified separate "go"
  refine ⟨identified, separate, moved, kept (.text "b2") 1 (card "k2" "c3") ?_ ?_ rfl⟩
  · simp
  · simp [start, column, card, Memory.HasColumn, Memory.columnsOf, Memory.rowOf]

end Kanban.Executor
