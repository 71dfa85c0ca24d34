import Kanban.Proofs.Executor.Entering
import Kanban.Proofs.Service.Failures

/-!
What can be said of a run before it is known what is on the board.  Phases follow from the program
alone: whatever the board answers, a run that returns is in the phase foretold, and where none is
foretold no run returns.
-/
namespace Kanban

/-- The phase `after` for those who need a pipe; there is none if there is no pipe. -/
def Phase.withPipe? (phase after : Phase) : Option Phase :=
  if phase = .pipe then some after else none

def Source.forecast (source : Source) (phase : Phase) : Option Phase :=
  if source = .pipe then phase.withPipe? .pipe else some .pipe

/-- The phase that a body leaves, given the phases that the tasks it refers to leave. -/
def Body.forecast (foretell : Phase → String → Option Phase) : Body → Phase → Option Phase
  | take source _ _, phase => source.forecast phase
  | order _ source, phase => source.forecast phase
  | filter .., phase => phase.withPipe? .pipe
  | act .print, phase => phase.withPipe? .pipe
  | act (.copy _), phase => phase.withPipe? .done
  | act (.move _), phase => phase.withPipe? .done
  | act (.add ..), _ => some .done
  | group steps, _ => do
      let _ ← steps.foldlM (fun _ step => foretell .init step) Phase.init
      return .done
  | flow steps, phase => steps.foldlM foretell phase

/-- The phase that a task leaves if the board does not stand in the way. -/
def Program.forecast (program : Program) (limit : DepthLimit) (underWay : List String)
    (phase : Phase) (name : String) : Option Phase :=
  match _found : program.body? name with
  | none => none
  | some body =>
      if _inside : name ∈ underWay then
        none
      else if limit.reachedAt? underWay.length = some false then
        body.forecast (program.forecast limit (underWay ++ [name])) phase
      else
        none
termination_by (Executor.idle program underWay).length
decreasing_by exact Executor.idle_shrinks (Program.body?_mem _found) _inside

section

variable {program : Program} {limit : DepthLimit} {underWay : List String} {phase : Phase}
  {name : String}

theorem Program.forecast_missing (missing : program.body? name = none) :
    program.forecast limit underWay phase name = none := by
  rw [forecast]
  split
  next => rfl
  next found => simp [missing] at found

theorem Program.forecast_found {body : Body} (found : program.body? name = some body) :
    program.forecast limit underWay phase name =
      if name ∈ underWay then none
      else if limit.reachedAt? underWay.length = some false then
        body.forecast (program.forecast limit (underWay ++ [name])) phase
      else none := by
  rw [forecast]
  split
  next missing => simp [found] at missing
  next other same =>
    rw [found] at same
    cases same
    rfl

end

/-- Trouble with the way through the program: a pipe that is not there, a cycle, a task that is not
defined. -/
def Trouble.OfControl (trouble : Trouble) : Prop :=
  trouble.kind = .noPipe ∨ trouble.kind = .cycle ∨ ∃ name, trouble = .run (.taskMissing name)

def Failure.OfControl : Failure → Prop
  | trouble cause => cause.OfControl
  | misuse _ => False

namespace Failure

theorem IsOfBoard.not_control {failure : Failure} (board : failure.IsOfBoard) :
    ¬ failure.OfControl := by
  cases failure with
  | misuse cause => exact id
  | trouble cause =>
      have kind : cause.kind = .board := board cause.kind rfl
      rintro (noPipe | cycle | ⟨name, rfl⟩)
      · simp [kind] at noPipe
      · simp [kind] at cycle
      · cases kind

theorem not_control_of_found {cause : RunTrouble} (kind : cause.kind = .notFound)
    (defined : ∀ name, cause ≠ .taskMissing name) : ¬ (ofRun cause).OfControl := by
  rintro (noPipe | cycle | ⟨name, missing⟩)
  · simp [Trouble.kind, kind] at noPipe
  · simp [Trouble.kind, kind] at cycle
  · cases missing
    exact defined name rfl

end Failure

def Licence.mild (grave : Failure → Prop) : Licence where
  fails failure := ¬ grave failure
  writes := True
  draws := True

namespace Run

/-- The forecast holds for a run: it ends in the phase foretold, and if it fails gravely no phase
was foretold. -/
def BearsOut (grave : Failure → Prop) (run : Run σ Pipeline) (foretold : Option Phase) : Prop :=
  ∀ world, match (run world).1 with
    | .ok pipeline => foretold = some pipeline.phase
    | .error failure => grave failure → foretold = none

namespace BearsOut

variable {grave : Failure → Prop}

theorem pure (pipeline : Pipeline) :
    BearsOut grave (Pure.pure pipeline : Run σ Pipeline) (some pipeline.phase) :=
  fun _ => rfl

theorem fail (failure : Failure) : BearsOut grave (Run.fail failure : Run σ Pipeline) none :=
  fun _ _ => rfl

theorem bind_mild {service : Service σ} {first : Run σ α} {next : α → Run σ Pipeline}
    {foretold : Option Phase} (calm : service.FailsOnlyWith fun failure => ¬ grave failure)
    (alike : Run.Alike (.mild grave) service service first first)
    (onward : ∀ value, BearsOut grave (next value) foretold) :
    BearsOut grave (first >>= next) foretold := by
  intro world
  rw [bind_apply]
  rcases ended : first world with ⟨failure | value, later⟩
  · have harmless := alike.failure_expected (fun _ licensed => licensed) calm ended
    exact fun serious => absurd serious harmless
  · exact onward value later

theorem bind {first : Run σ Pipeline} {next : Pipeline → Run σ Pipeline} {foretold : Option Phase}
    {then_ : Phase → Option Phase} (holds : BearsOut grave first foretold)
    (onward : ∀ pipeline, BearsOut grave (next pipeline) (then_ pipeline.phase)) :
    BearsOut grave (first >>= next) (foretold >>= then_) := by
  intro world
  have begun := holds world
  rw [bind_apply]
  rcases ended : first world with ⟨failure | pipeline, later⟩
  · rw [ended] at begun
    intro serious
    rw [begun serious]
    rfl
  · rw [ended] at begun
    rw [begun]
    exact onward pipeline later

end BearsOut

end Run

namespace Executor

theorem pipeCards_bears_out {grave : Failure → Prop} {pipeline : Pipeline}
    {next : List Card → Run σ Pipeline} {after : Phase}
    (onward : ∀ cards, pipeline.phase = .pipe → (next cards).BearsOut grave (some after)) :
    (pipeCards pipeline >>= next).BearsOut grave (pipeline.phase.withPipe? after) := by
  obtain ⟨phase, items⟩ := pipeline
  cases phase with
  | pipe => exact onward items rfl
  | init | done => exact Run.BearsOut.fail _

theorem inTurn_bears_out {service : Service σ} {grave : Failure → Prop}
    {perform : Entrance → String → Run σ Pipeline}
    {announce : String → String} {entrance : Pipeline → Entrance}
    {foretell : Phase → String → Option Phase} {steps : List String} (pipeline : Pipeline)
    (begun : Phase → Phase) (calm : service.FailsOnlyWith fun failure => ¬ grave failure)
    (begins : ∀ pipeline, (entrance pipeline).pipeline.phase = begun pipeline.phase)
    (holds : ∀ entrance, ∀ step ∈ steps,
      (perform entrance step).BearsOut grave (foretell entrance.pipeline.phase step)) :
    (inTurn perform announce entrance steps pipeline).BearsOut grave
      (steps.foldlM (fun phase step => foretell (begun phase) step) pipeline.phase) := by
  induction steps generalizing pipeline with
  | nil => exact Run.BearsOut.pure pipeline
  | cons step rest ih =>
      have first := holds (entrance pipeline) step (by simp)
      rw [begins] at first
      have later (next : Pipeline) :=
        ih next fun entrance other member => holds entrance other (by simp [member])
      rw [List.foldlM_cons]
      exact Run.BearsOut.bind_mild calm (.info _) fun _ => first.bind later

section

variable {executor : Executor σ} {grave : Failure → Prop}
  (calm : executor.service.FailsOnlyWith fun failure => ¬ grave failure)
  (mild : ∀ failure : Failure, ¬ failure.OfControl → ¬ grave failure)
include mild

theorem column_mild (executor : Executor σ) (name : String) :
    Run.Alike (.mild grave) executor.service executor.service (executor.column name)
      (executor.column name) := by
  apply Run.Alike.bind (.bind (.ask (.columns executor.board) nofun) fun columns => .pure _)
  intro found
  cases found with
  | some column => exact .pure column
  | none => exact .fail (mild _ (Failure.not_control_of_found rfl nofun))

theorem select_mild (executor : Executor σ) (criterion : FilterBy) (value : String)
    (caseSensitive : Bool) (cards : List Card) :
    Run.Alike (.mild grave) executor.service executor.service
      (executor.select criterion value caseSensitive cards)
      (executor.select criterion value caseSensitive cards) := by
  cases criterion with
  | name => exact .ofExcept _ _ fun cause _ => mild _ id
  | label =>
      apply Run.Alike.bind (.bind (.ask (.labels executor.board) nofun) fun labels =>
        .ofExcept _ _ fun cause _ => mild _ id)
      intro found
      cases found with
      | some label => exact .pure _
      | none => exact .fail (mild _ (Failure.not_control_of_found rfl nofun))

include calm

theorem sourceCards_bears_out (source : Source) {pipeline : Pipeline}
    {next : List Card → Run σ Pipeline}
    (onward : ∀ cards, (next cards).BearsOut grave (some .pipe)) :
    (executor.sourceCards source pipeline >>= next).BearsOut grave
      (source.forecast pipeline.phase) := by
  rw [sourceCards, bind_assoc]
  have counted (cards : List Card) :
      ((do
        Run.debug s!"Taken {cards.length} cards from {source.shown}"
        return cards) >>= next).BearsOut grave (some .pipe) := by
    rw [bind_assoc]
    apply Run.BearsOut.bind_mild calm (.debug _)
    intro logged
    exact onward cards
  cases source with
  | pipe => exact pipeCards_bears_out fun cards _ => counted cards
  | board =>
      exact Run.BearsOut.bind_mild calm (.ask (.cards executor.board) nofun) counted
  | column name =>
      have fetched : Run.Alike (.mild grave) executor.service executor.service
          (executor.fetch (.column name) pipeline) (executor.fetch (.column name) pipeline) :=
        .bind (column_mild mild executor name) fun found => .ask (.cardsIn found.id) nofun
      exact Run.BearsOut.bind_mild calm fetched counted

theorem take_bears_out (source : Source) (size : Nat) (place : Place) (pipeline : Pipeline) :
    (executor.take source size place pipeline).BearsOut grave
      (source.forecast pipeline.phase) := by
  apply sourceCards_bears_out calm mild source
  intro cards
  dsimp only
  split
  · apply Run.BearsOut.bind_mild calm (.debug _)
    intro logged
    cases place with
    | top => exact Run.BearsOut.pure (.holding _)
    | bottom => exact Run.BearsOut.pure (.holding _)
    | random =>
        apply Run.BearsOut.bind_mild calm (.draw (fun draws => draws.distinct_movesOn _ _) trivial)
        intro indices
        exact Run.BearsOut.pure (.holding _)
  · exact Run.BearsOut.pure (.holding _)

theorem order_bears_out (kind : OrderKind) (source : Source) (pipeline : Pipeline) :
    (executor.order kind source pipeline).BearsOut grave (source.forecast pipeline.phase) := by
  apply sourceCards_bears_out calm mild source
  intro cards
  apply Run.BearsOut.bind_mild calm (.debug _)
  intro logged
  cases kind with
  | shuffle =>
      apply Run.BearsOut.bind_mild calm (.draw (fun draws => draws.shuffle_movesOn _) trivial)
      intro shuffled
      exact Run.BearsOut.pure (.holding _)
  | sort =>
      apply Run.BearsOut.bind_mild calm (.ofExcept _ _ fun cause _ => mild _ id)
      intro sorted
      exact Run.BearsOut.pure (.holding _)
  | reverse => exact Run.BearsOut.pure (.holding _)

theorem act_bears_out (action : Action) (foretell : Phase → String → Option Phase)
    (pipeline : Pipeline) :
    (executor.act action pipeline).BearsOut grave
      ((Body.act action).forecast foretell pipeline.phase) := by
  cases action with
  | print =>
      apply pipeCards_bears_out
      intro cards pipe
      rw [← pipe]
      apply Run.BearsOut.bind_mild calm (.emit (by simp [printLine, Event.info, Event.isLog]))
      intro printed
      exact Run.BearsOut.pure pipeline
  | copy target =>
      apply Run.BearsOut.bind_mild calm (column_mild mild executor target.column)
      intro column
      apply pipeCards_bears_out
      intro cards _
      apply Run.BearsOut.bind_mild calm (.info _)
      intro logged
      apply Run.BearsOut.bind_mild calm
        (copyCards_alike executor executor.service column target.place cards trivial
          fun _ => trivial)
      intro copied
      exact Run.BearsOut.pure .finished
  | move target =>
      apply Run.BearsOut.bind_mild calm (column_mild mild executor target.column)
      intro column
      apply pipeCards_bears_out
      intro cards _
      apply Run.BearsOut.bind_mild calm (.info _)
      intro logged
      apply Run.BearsOut.bind_mild calm
        (moveCards_alike executor executor.service column target.place cards trivial
          fun _ => trivial)
      intro moved
      exact Run.BearsOut.pure .finished
  | add target card =>
      apply Run.BearsOut.bind_mild calm (column_mild mild executor target.column)
      intro column
      apply Run.BearsOut.bind_mild calm (.info _)
      intro logged
      apply Run.BearsOut.bind_mild calm
        (landing_alike executor executor.service target.place column.id fun _ => trivial)
      intro landing
      apply Run.BearsOut.bind_mild calm (.create _ trivial)
      intro created
      exact Run.BearsOut.pure .finished

theorem filter_bears_out (criterion : FilterBy) (value : String) (caseSensitive : Bool)
    (pipeline : Pipeline) :
    (executor.filter criterion value caseSensitive pipeline).BearsOut grave
      (pipeline.phase.withPipe? .pipe) := by
  apply pipeCards_bears_out
  intro cards _
  apply Run.BearsOut.bind_mild calm (select_mild mild executor criterion value caseSensitive cards)
  intro kept
  apply Run.BearsOut.bind_mild calm (.debug _)
  intro logged
  exact Run.BearsOut.pure (.holding kept)

theorem evaluate_bears_out {perform : Entrance → String → Run σ Pipeline}
    {foretell : Phase → String → Option Phase} {body : Body} (pipeline : Pipeline)
    (holds : ∀ entrance, ∀ step ∈ body.references,
      (perform entrance step).BearsOut grave (foretell entrance.pipeline.phase step)) :
    (executor.evaluate perform body pipeline).BearsOut grave
      (body.forecast foretell pipeline.phase) := by
  cases body with
  | take source size place => exact take_bears_out calm mild source size place pipeline
  | order kind source => exact order_bears_out calm mild kind source pipeline
  | filter criterion value caseSensitive =>
      exact filter_bears_out calm mild criterion value caseSensitive pipeline
  | act action => exact act_bears_out calm mild action foretell pipeline
  | group steps =>
      apply Run.BearsOut.bind (inTurn_bears_out .start (fun _ => .init) calm (fun _ => rfl) holds)
      intro last
      exact Run.BearsOut.pure .finished
  | flow steps =>
      exact inTurn_bears_out pipeline id calm (fun _ => rfl) holds

theorem enter_bears_out (underWay : List String) (entrance : Entrance) (name : String) :
    (executor.enter underWay entrance name).BearsOut grave
      (executor.program.forecast executor.limit underWay entrance.pipeline.phase name) := by
  induction underWay, entrance, name using enter.induct executor with
  | case1 underWay entrance name missing =>
      rw [executor.enter_missing missing, Program.forecast_missing missing]
      exact Run.BearsOut.fail _
  | case2 underWay entrance name body found ih =>
      intro world
      have entering := executor.enter_entering underWay entrance name world
      generalize executor.enter underWay entrance name world = ended at entering
      rw [Program.forecast_found found]
      cases entering with
      | missing absent => simp [found] at absent
      | repeated _ _ inside =>
          rw [if_pos inside]
          exact fun _ => rfl
      | incomparable _ _ outside unknown =>
          rw [if_neg outside, if_neg (by simp [unknown])]
          exact fun _ => rfl
      | tooDeep _ _ outside full =>
          rw [if_neg outside, if_neg (by simp [full])]
          exact fun _ => rfl
      | evaluated same _ outside free =>
          rw [found] at same
          cases same
          rw [if_neg outside, if_pos free]
          exact evaluate_bears_out calm mild entrance.pipeline
            (fun begun step _ => ih outside begun step) _

end

section

variable {executor : Executor σ} {name : String} {world later : World σ}

theorem run_returned {pipeline : Pipeline}
    (returned : executor.run name world = (.ok pipeline, later)) :
    executor.program.forecast executor.limit [] .init name = some pipeline.phase := by
  have holds : (executor.enter [] .fresh name).BearsOut (fun _ => False)
      (executor.program.forecast executor.limit [] .init name) :=
    enter_bears_out (fun _ _ _ _ => id) (fun _ _ => id) [] .fresh name
  have ended := holds world
  rw [show executor.enter [] .fresh name world = _ from returned] at ended
  exact ended

theorem run_refused {trouble : Trouble} (board : executor.service.FailsOnlyWith Failure.IsOfBoard)
    (failed : executor.run name world = (.error (.trouble trouble), later))
    (control : trouble.OfControl) :
    executor.program.forecast executor.limit [] .init name = none := by
  have holds : (executor.enter [] .fresh name).BearsOut Failure.OfControl
      (executor.program.forecast executor.limit [] .init name) := by
    refine enter_bears_out ?_ (fun _ => id) [] .fresh name
    intro α call state failure given
    exact (board call state failure given).not_control
  have ended := holds world
  rw [show executor.enter [] .fresh name world = _ from failed] at ended
  exact ended control

end

/-- Of a program that is put to work on two boards, runs of a task that return do so in the same
phase; and where one run fails for the lack of a pipe, for a cycle or for a task that is not
defined, no run on the other board returns. -/
theorem control_ignores_board (program : Program) (limit : DepthLimit) (name : String)
    (service : Service σ) (other : Service τ) (board otherBoard : Tree) :
    let here : Executor σ := { program, service, board, limit }
    let there : Executor τ := { program, service := other, board := otherBoard, limit }
    (∀ world pipeline later world' pipeline' later',
      here.run name world = (.ok pipeline, later) →
      there.run name world' = (.ok pipeline', later') → pipeline.phase = pipeline'.phase) ∧
    (service.FailsOnlyWith Failure.IsOfBoard →
      ∀ world trouble later, here.run name world = (.error (.trouble trouble), later) →
        trouble.OfControl →
        ∀ world' pipeline later', there.run name world' ≠ (.ok pipeline, later')) ∧
    Memory.service.FailsOnlyWith Failure.IsOfBoard ∧
    ∀ (client : Trello) (ρ : Type) (transport : Transport ρ),
      (client.service transport).FailsOnlyWith Failure.IsOfBoard := by
  intro here there
  refine ⟨?_, ?_, Memory.service_fails, fun client _ transport => client.service_fails transport⟩
  · intro world pipeline later world' pipeline' later' returned returned'
    have foretold := run_returned returned
    rw [run_returned returned'] at foretold
    exact (Option.some.inj foretold).symm
  · intro calm world trouble later failed control world' pipeline later' returned
    have foretold := run_refused calm failed control
    rw [run_returned returned] at foretold
    cases foretold

/-- A flow that moves its cards away before it prints them fails on a board without cards, so it
returns on no board. -/
theorem control_ignores_board_of_sweep :
    let program : Program :=
      { board := "ENG"
        tasks := [("go", .flow ["all", "sweep", "show"]), ("all", .take .board 0 .top),
          ("sweep", .act (.move { column := "Done" })), ("show", .act .print)] }
    let empty : World Memory :=
      { service :=
          { columns :=
              [(.text "b1", [{ id := .text "c1", name := .text "Done", closed := false }])] }
        draws := { number := fun _ => 0 } }
    let executor (board : Tree) : Executor Memory :=
      { program, service := Memory.service, board, limit := .standard }
    Memory.service.FailsOnlyWith Failure.IsOfBoard ∧
      ((executor (.text "b1")).run "go" empty).1 = .error (.ofRun (.noPipe .done)) ∧
      Trouble.OfControl (.run (.noPipe .done)) ∧
      ∀ board world pipeline later, (executor board).run "go" world ≠ (.ok pipeline, later) := by
  intro program empty executor
  have go : program.body? "go" = some (.flow ["all", "sweep", "show"]) := by rfl
  have all : program.body? "all" = some (.take .board 0 .top) := by rfl
  have sweep : program.body? "sweep" = some (.act (.move { column := "Done" })) := by rfl
  have print : program.body? "show" = some (.act .print) := by rfl
  have failed : ((executor (.text "b1")).run "go" empty).1 = .error (.ofRun (.noPipe .done)) := by
    simp [run, executor, enter_found, go, all, sweep, print, evaluate, flow, inTurn,
      Entrance.begin_apply, Run.bind_apply, Run.info]
    rfl
  have control : Trouble.OfControl (.run (.noPipe .done)) := Or.inl rfl
  refine ⟨Memory.service_fails, failed, control, fun board => ?_⟩
  exact (control_ignores_board program .standard "go" Memory.service Memory.service (.text "b1")
    board).2.1 Memory.service_fails empty _ _ (Prod.ext failed rfl) control

end Executor

end Kanban
