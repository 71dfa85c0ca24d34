import Kanban.Proofs.Executor.InMemory

/-!
The moments of a run at which a task is entered.  A run comes to a task by way of the flows and
groups that it is inside of; the steps before it have been performed by then.
-/
namespace Kanban.Executor

/-- Steps performed in turn come to one of them, and begin it at some moment. -/
inductive ComesTo (perform : Entrance → String → Run σ Pipeline) (announce : String → String)
    (entrance : Pipeline → Entrance) : (steps : List String) → Pipeline → World σ →
    (begun : Entrance) → (next : String) → (moment : World σ) → Prop where
  | first {step : String} {rest : List String} {pipeline : Pipeline} {world announced : World σ} :
      Run.info (announce step) world = (.ok (), announced) →
      ComesTo perform announce entrance (step :: rest) pipeline world (entrance pipeline) step
        announced
  | later {step next : String} {rest : List String} {pipeline given : Pipeline} {begun : Entrance}
      {world announced between moment : World σ} :
      Run.info (announce step) world = (.ok (), announced) →
      perform (entrance pipeline) step announced = (.ok given, between) →
      ComesTo perform announce entrance rest given between begun next moment →
      ComesTo perform announce entrance (step :: rest) pipeline world begun next moment

/-- The evaluation of a body comes to a task that it refers to. -/
inductive Calls (perform : Entrance → String → Run σ Pipeline) :
    Body → Pipeline → World σ → (begun : Entrance) → (next : String) → (moment : World σ) →
    Prop where
  | flow {steps : List String} {pipeline : Pipeline} {begun : Entrance} {next : String}
      {world moment : World σ} :
      ComesTo perform (fun step => s!"Execute a step: {step}") .continuing steps pipeline world
        begun next moment →
      Calls perform (.flow steps) pipeline world begun next moment
  | group {steps : List String} {pipeline : Pipeline} {begun : Entrance} {next : String}
      {world moment : World σ} :
      ComesTo perform (fun step => s!"Execute a group member: {step}") (fun _ => .fresh) steps
        .start world begun next moment →
      Calls perform (.group steps) pipeline world begun next moment

/-- The tasks that are entered in the course of a run, each at its moment. -/
inductive Visited (executor : Executor σ) (root : String) (start : World σ) :
    (underWay : List String) → Entrance → (name : String) → (moment : World σ) → Prop where
  | root : Visited executor root start [] .fresh root start
  | step {underWay : List String} {entrance begun : Entrance} {name next : String} {body : Body}
      {world entered moment : World σ} :
      Visited executor root start underWay entrance name world →
      executor.program.body? name = some body →
      entrance.begin name world = (.ok entrance.pipeline, entered) → name ∉ underWay →
      executor.limit.reachedAt? underWay.length = some false →
      Calls (executor.enter (underWay ++ [name])) body entrance.pipeline entered begun next
        moment →
      Visited executor root start (underWay ++ [name]) begun next moment

section

variable {program : Program} {board : Tree} {limit : DepthLimit} {underWay : List String}
  {announce : String → String} {entrance : Pipeline → Entrance} {steps : List String}
  {pipeline : Pipeline} {world moment : World Memory} {begun : Entrance} {next : String}

theorem inTurn_leads (underWay : List String) (announce : String → String)
    (entrance : Pipeline → Entrance) (steps : List String) (pipeline : Pipeline)
    (world : World Memory) :
    ∃ events, world.LeadsTo events
      (inTurn ((inMemory program board limit).enter underWay) announce entrance steps pipeline
        world).2 := by
  have alike : Run.Alike ⟨Refusal, True, True⟩ Memory.service Memory.service
      (inTurn ((inMemory program board limit).enter underWay) announce entrance steps pipeline)
      (inTurn ((inMemory program board limit).enter underWay) announce entrance steps pipeline) :=
    inTurn_alike (inMemory program board limit) Memory.service steps pipeline
      fun begun step _ => enter_inMemory program board limit underWay begun step
  exact alike.leads world

theorem ComesTo.on_the_way
    (comes : ComesTo ((inMemory program board limit).enter underWay) announce entrance steps
      pipeline world begun next moment) :
    (∃ before, world.LeadsTo before moment) ∧
      ∃ after, ((inMemory program board limit).enter underWay begun next moment).2.LeadsTo after
        (inTurn ((inMemory program board limit).enter underWay) announce entrance steps pipeline
          world).2 := by
  induction comes with
  | @first step rest pipeline world announced announcing =>
      rw [inTurn, Run.bind_of_ok announcing]
      refine ⟨?_, ?_⟩
      · have told := World.LeadsTo.info world (announce step)
        rw [announcing] at told
        exact ⟨_, told⟩
      · rcases ended : (inMemory program board limit).enter underWay (entrance pipeline) step
          announced with ⟨failure | given, between⟩
        · rw [Run.bind_of_error ended]
          exact ⟨[], .refl between⟩
        · rw [Run.bind_of_ok ended]
          exact inTurn_leads underWay announce entrance rest given between
  | @later step next rest pipeline given begun world announced between moment announcing performed
      comes ih =>
      rw [inTurn, Run.bind_of_ok announcing, Run.bind_of_ok performed]
      refine ⟨?_, ih.2⟩
      obtain ⟨events, leads⟩ :=
        enter_leads program board limit underWay (entrance pipeline) step announced
      obtain ⟨before, onward⟩ := ih.1
      have told := World.LeadsTo.info world (announce step)
      rw [announcing] at told
      rw [performed] at leads
      exact ⟨_, told.trans (leads.trans onward)⟩

theorem group_world (perform : Entrance → String → Run σ Pipeline) (steps : List String)
    (world : World σ) :
    (group perform steps world).2 =
      (inTurn perform (fun step => s!"Execute a group member: {step}") (fun _ => .fresh) steps
        .start world).2 := by
  rw [group, Run.bind_apply]
  generalize inTurn perform _ _ steps .start world = ended
  rcases ended with ⟨_ | _, _⟩ <;> rfl

theorem Calls.on_the_way {body : Body}
    (calls : Calls ((inMemory program board limit).enter underWay) body pipeline world begun next
      moment) :
    (∃ before, world.LeadsTo before moment) ∧
      ∃ after, ((inMemory program board limit).enter underWay begun next moment).2.LeadsTo after
        ((inMemory program board limit).evaluate ((inMemory program board limit).enter underWay)
          body pipeline world).2 := by
  cases calls with
  | flow comes => exact comes.on_the_way
  | group comes =>
      rw [evaluate, group_world]
      exact comes.on_the_way

theorem Visited.on_the_way {root : String} {start : World Memory} {entrance : Entrance}
    {name : String}
    (visited : (inMemory program board limit).Visited root start underWay entrance name moment) :
    (∃ before, start.LeadsTo before moment) ∧
      ∃ after, ((inMemory program board limit).enter underWay entrance name moment).2.LeadsTo after
        ((inMemory program board limit).run root start).2 := by
  induction visited with
  | root => exact ⟨⟨[], .refl start⟩, [], .refl _⟩
  | @step underWay entrance begun name next body world entered moment visited found begins outside
      free calls ih =>
      obtain ⟨⟨before, reached⟩, after, onward⟩ := ih
      obtain ⟨⟨between, called⟩, rest, ended⟩ := calls.on_the_way
      rw [enter_evaluates _ found begins outside free] at onward
      refine ⟨⟨before ++ (entrance.announcement name ++ between), ?_⟩, rest ++ after,
        ended.trans onward⟩
      exact reached.trans ((begin_leads begins).trans called)

end

end Kanban.Executor
