import Kanban.Proofs.Executor.Choosing
import Kanban.Proofs.Executor.Visits
import Kanban.Proofs.Service.Memory.Identity

/-!
The cards in a pipe are never out of date.  Nothing reads them again once they are in the pipe, but
whatever writes to the board empties the pipe before another task can be given it.
-/
namespace Kanban

/-- Whatever the pipe holds is on the board now. -/
def Pipeline.Fresh (pipeline : Pipeline) (board : Tree) (memory : Memory) : Prop :=
  pipeline.phase = .pipe → memory.Current board pipeline.items

namespace Pipeline

theorem start_fresh (board : Tree) (memory : Memory) : start.Fresh board memory := nofun

theorem finished_fresh (board : Tree) (memory : Memory) : finished.Fresh board memory := nofun

theorem Fresh.current {pipeline : Pipeline} {board : Tree} {memory : Memory} {cards : List Card}
    (fresh : pipeline.Fresh board memory) (held : pipeline.cards = .ok cards) :
    memory.Current board cards := by
  unfold Pipeline.cards at held
  split at held
  next phase =>
    cases held
    exact fresh phase
  next => cases held

end Pipeline

theorem Entrance.continuing_fresh (board : Tree) (pipeline : Pipeline) (memory : Memory)
    (fresh : pipeline.Fresh board memory) :
    (continuing pipeline).pipeline.Fresh board memory :=
  fresh

namespace Executor

variable {program : Program} {board : Tree} {limit : DepthLimit} {pipeline result : Pipeline}
  {world later : World Memory}

theorem column_found {name : String} {column : Column}
    (found : (inMemory program board limit).column name world = (.ok column, later)) :
    column ∈ world.service.columnsOf board ∧ later.service = world.service := by
  obtain ⟨named, between, asked, found⟩ := Run.bind_ok found
  have answer : named = Service.columnNamed? (world.service.columnsOf board) (.text name) ∧
      between.service = world.service := by
    cases asked
    exact ⟨rfl, rfl⟩
  cases named with
  | none => cases found
  | some located =>
      cases found
      exact ⟨List.mem_of_find?_eq_some answer.1.symm, answer.2⟩

theorem fetch_current {source : Source} {cards : List Card} (distinct : world.service.Distinct)
    (fresh : pipeline.Fresh board world.service)
    (fetched : (inMemory program board limit).fetch source pipeline world = (.ok cards, later)) :
    world.service.Current board cards := by
  cases source with
  | pipe => exact fresh.current (Run.ofExcept_returned fetched).1
  | board =>
      cases fetched
      exact distinct.cardsOf_current board
  | column name =>
      obtain ⟨column, between, found, fetched⟩ := Run.bind_ok fetched
      obtain ⟨known, kept⟩ := column_found found
      cases fetched
      rw [← kept] at known distinct ⊢
      exact distinct.cardsInColumn_current known

theorem Chooses.fresh {source : Source} (distinct : world.service.Distinct)
    (fresh : pipeline.Fresh board world.service)
    (chooses : (inMemory program board limit).Chooses source pipeline world result) :
    result.Fresh board world.service := by
  obtain ⟨cards, chosen, between, fetched, subperm, rfl⟩ := chooses
  exact fun _ => (fetch_current distinct fresh fetched).subperm subperm

/-- What a task keeps to, if it returns: it finds and leaves a board without two cards of the same
identifier, and it is given and gives a pipeline that is not out of date. -/
def KeepsFresh (board : Tree) (entrance : Entrance) (task : Run Memory Pipeline) : Prop :=
  ∀ world result later, task world = (.ok result, later) → world.service.Distinct →
    entrance.pipeline.Fresh board world.service →
    later.service.Distinct ∧ result.Fresh board later.service

theorem inTurn_fresh {perform : Entrance → String → Run Memory Pipeline}
    {announce : String → String} {entrance : Pipeline → Entrance} {steps : List String}
    (performs : ∀ entrance, ∀ step ∈ steps, KeepsFresh board entrance (perform entrance step))
    (entrances : ∀ pipeline memory, pipeline.Fresh board memory →
      (entrance pipeline).pipeline.Fresh board memory)
    (distinct : world.service.Distinct) (fresh : pipeline.Fresh board world.service)
    (done : inTurn perform announce entrance steps pipeline world = (.ok result, later)) :
    later.service.Distinct ∧ result.Fresh board later.service := by
  induction steps generalizing pipeline world with
  | nil =>
      cases done
      exact ⟨distinct, fresh⟩
  | cons step rest ih =>
      obtain ⟨_, announced, announcing, done⟩ := Run.bind_ok done
      cases announcing
      obtain ⟨given, between, performed, done⟩ := Run.bind_ok done
      have given := performs _ step (by simp) _ _ _ performed distinct
        (entrances pipeline world.service fresh)
      exact ih (fun entrance other member => performs entrance other (by simp [member])) given.1
        given.2 done

theorem evaluate_fresh {perform : Entrance → String → Run Memory Pipeline} {body : Body}
    (performs : ∀ entrance, ∀ step ∈ body.references,
      KeepsFresh board entrance (perform entrance step))
    (distinct : world.service.Distinct) (fresh : pipeline.Fresh board world.service)
    (done : (inMemory program board limit).evaluate perform body pipeline world =
      (.ok result, later)) : result.Fresh board later.service := by
  have kept (leaf : body.references = []) (reads : body.writes = false) :
      later.service = world.service := by
    have same :=
      (evaluate_reads program board limit perform leaf reads pipeline).board_kept id world
    rwa [done] at same
  cases body with
  | take source size place =>
      rw [kept rfl rfl]
      exact (take_chooses done).fresh distinct fresh
  | order kind source =>
      rw [kept rfl rfl]
      exact (order_chooses done).fresh distinct fresh
  | filter criterion value caseSensitive =>
      rw [kept rfl rfl]
      exact (filter_chooses done).fresh distinct fresh
  | act action =>
      rcases act_leaves done with ⟨reads, rfl⟩ | rfl
      · rw [kept rfl reads]
        exact fresh
      · exact Pipeline.finished_fresh board later.service
  | group steps =>
      obtain ⟨_, between, _, done⟩ := Run.bind_ok done
      cases done
      -- What the members leave may be out of date, but a group hands on nothing.
      exact Pipeline.finished_fresh board _
  | flow steps =>
      exact (inTurn_fresh performs (Entrance.continuing_fresh board) distinct fresh done).2

theorem enter_fresh (underWay : List String) (entrance : Entrance) (name : String) :
    KeepsFresh board entrance ((inMemory program board limit).enter underWay entrance name) := by
  induction underWay, entrance, name using enter.induct (inMemory program board limit) with
  | case1 underWay entrance name missing =>
      intro world result later done
      rw [enter_missing _ missing] at done
      cases done
  | case2 underWay entrance name body found ih =>
      intro world result later done distinct fresh
      refine ⟨?_, ?_⟩
      · exact enter_keeps program board limit (fun _ call distinct => distinct.after call) done
          distinct
      · obtain ⟨same, begun, known, begins, outside, free, evaluated⟩ := enter_returned done
        rw [found] at known
        cases known
        rw [← Entrance.begin_service begins] at distinct fresh
        exact evaluate_fresh (fun entrance step _ => ih outside entrance step) distinct fresh
          evaluated

theorem ComesTo.fresh {perform : Entrance → String → Run Memory Pipeline}
    {announce : String → String} {entrance : Pipeline → Entrance} {steps : List String}
    {begun : Entrance} {next : String} {moment : World Memory}
    (comes : ComesTo perform announce entrance steps pipeline world begun next moment)
    (performs : ∀ entrance, ∀ step ∈ steps, KeepsFresh board entrance (perform entrance step))
    (entrances : ∀ pipeline memory, pipeline.Fresh board memory →
      (entrance pipeline).pipeline.Fresh board memory)
    (distinct : world.service.Distinct) (fresh : pipeline.Fresh board world.service) :
    moment.service.Distinct ∧ begun.pipeline.Fresh board moment.service := by
  induction comes with
  | first announced =>
      cases announced
      exact ⟨distinct, entrances _ _ fresh⟩
  | later announced performed comes ih =>
      cases announced
      have given := performs _ _ (by simp) _ _ _ performed distinct (entrances _ _ fresh)
      exact ih (fun entrance other member => performs entrance other (by simp [member])) given.1
        given.2

theorem Visited.fresh {root : String} {start : World Memory} (distinct : start.service.Distinct)
    {underWay : List String} {entrance : Entrance} {name : String} {moment : World Memory}
    (visited : (inMemory program board limit).Visited root start underWay entrance name moment) :
    moment.service.Distinct ∧ entrance.pipeline.Fresh board moment.service := by
  induction visited with
  | root => exact ⟨distinct, Pipeline.start_fresh board start.service⟩
  | step visited found begins outside free calls ih =>
      have kept := Entrance.begin_service begins
      rw [← kept] at ih
      cases calls with
      | flow comes =>
          exact comes.fresh (fun entrance step _ => enter_fresh _ entrance step)
            (Entrance.continuing_fresh board) ih.1 ih.2
      | group comes =>
          exact comes.fresh (fun entrance step _ => enter_fresh _ entrance step)
            (fun _ memory _ => Pipeline.start_fresh board memory) ih.1
            (Pipeline.start_fresh board _)

/-- Whatever pipe a task is given in the course of a run, and whatever pipe it gives, has cards of
different identifiers, each of which is on the board at that moment as it is in the pipe. -/
theorem pipes_are_fresh {root : String} {start : World Memory} (distinct : start.service.Distinct) :
    (∀ underWay entrance name moment,
      (inMemory program board limit).Visited root start underWay entrance name moment →
      entrance.pipeline.Fresh board moment.service ∧
        ∀ result later,
          (inMemory program board limit).enter underWay entrance name moment =
            (.ok result, later) → result.Fresh board later.service) ∧
    ∀ result later, (inMemory program board limit).run root start = (.ok result, later) →
      result.Fresh board later.service := by
  have visits {underWay : List String} {entrance : Entrance} {name : String}
      {moment : World Memory}
      (visited : (inMemory program board limit).Visited root start underWay entrance name moment) :
      entrance.pipeline.Fresh board moment.service ∧
        ∀ result later,
          (inMemory program board limit).enter underWay entrance name moment =
            (.ok result, later) → result.Fresh board later.service := by
    obtain ⟨distinct, fresh⟩ := visited.fresh distinct
    exact ⟨fresh, fun result later done =>
      (enter_fresh underWay entrance name moment result later done distinct fresh).2⟩
  exact ⟨fun underWay entrance name moment visited => visits visited, (visits .root).2⟩

/-- A flow that takes the two cards of a board hands them on to the step that prints them. -/
theorem pipes_are_fresh_of_take :
    let card (id : String) : Card :=
      { id := .text id, name := .text "A", description := .text "", columnId := .text "c1",
        labelIds := [], position := 1, url := .text "", shortUrl := .text "" }
    let start : World Memory :=
      { service :=
          { columns :=
              [(.text "b1", [{ id := .text "c1", name := .text "To do", closed := false }])]
            cards := [card "k1", card "k2"] }
        draws := { number := fun _ => 0 } }
    let executor := inMemory
      { board := "ENG"
        tasks := [("go", .flow ["all", "show"]), ("all", .take .board 0 .top),
          ("show", .act .print)] }
      (.text "b1") .standard
    let taken := Pipeline.holding [card "k1", card "k2"]
    start.service.Distinct ∧
      (∃ moment, executor.Visited "go" start ["go"] (.continuing taken) "show" moment ∧
        taken.Fresh (.text "b1") moment.service) ∧
      ∃ later, executor.run "go" start = (.ok taken, later) ∧
        taken.Fresh (.text "b1") later.service := by
  intro card start executor taken
  have named : start.service.ids = ["k1", "k2"].map Tree.text := rfl
  have distinct : start.service.Distinct := by
    refine (Memory.identified_of_names named (by decide) fun number => ?_).toDistinct
    simpa [named] using
      And.intro (Memory.newId_ne_text (by decide) number) (Memory.newId_ne_text (by decide) number)
  have go : executor.program.body? "go" = some (.flow ["all", "show"]) := by rfl
  have all : executor.program.body? "all" = some (.take .board 0 .top) := by rfl
  have print : executor.program.body? "show" = some (.act .print) := by rfl
  have free (depth : Nat) :
      executor.limit.reachedAt? depth = some (decide ((32 : Int) ≤ depth)) := rfl
  have took (world : World Memory) (same : world.service = start.service) :
      ∃ between, executor.enter ["go"] (.continuing .start) "all" world = (.ok taken, between) := by
    rw [enter_found _ all]
    simp [free, evaluate, take, sourceCards, fetch, Run.bind_apply, Entrance.begin_apply,
      Entrance.pipeline]
    simp [executor, same, start, card, taken, inMemory, Memory.service, Memory.cardsOf,
      Memory.columnsOf, Memory.rowOf, Run.map_apply, Run.debug]
  have shown (world : World Memory) :
      ∃ later, executor.enter ["go"] (.continuing taken) "show" world = (.ok taken, later) := by
    rw [enter_found _ print]
    simp [free, evaluate, act, pipeCards, taken, Run.bind_apply, Run.map_apply, Run.emit,
      Entrance.begin_apply, Entrance.pipeline]
  obtain ⟨entered, begun⟩ : ∃ entered,
      Entrance.begin .fresh "go" start = (.ok Entrance.fresh.pipeline, entered) :=
    ⟨_, Entrance.begin_apply .fresh "go" start⟩
  have idle : executor.limit.reachedAt? ([] : List String).length = some false := by rfl
  let told (step : String) (world : World Memory) : World Memory :=
    (Run.info s!"Execute a step: {step}" world).2
  have same : entered.service = start.service := Entrance.begin_service begun
  obtain ⟨between, took⟩ := took (told "all" entered) same
  obtain ⟨later, shown⟩ := shown (told "show" between)
  have visited : executor.Visited "go" start ["go"] (.continuing taken) "show"
      (told "show" between) :=
    .step .root go begun (by simp) idle (.flow (.later rfl took (.first rfl)))
  have ended : executor.run "go" start = (.ok taken, later) := by
    have telling (step : String) (world : World Memory) :
        Run.info s!"Execute a step: {step}" world = (.ok (), told step world) := rfl
    rw [run, enter_evaluates _ go begun (by simp) idle]
    refine (Run.bind_of_ok (telling "all" entered)).trans ?_
    refine (Run.bind_of_ok took).trans ?_
    refine (Run.bind_of_ok (telling "show" between)).trans ?_
    exact Run.bind_of_ok shown
  obtain ⟨visits, returns⟩ := pipes_are_fresh distinct
  exact ⟨distinct, ⟨_, visited, (visits _ _ _ _ visited).1⟩, later, ended, returns _ _ ended⟩

end Executor

end Kanban
