import Kanban.Executor.Landing
import Kanban.Pipeline
import Kanban.Program
import Kanban.Service
import Kanban.Sorting
import Kanban.Tree.Order

/-!
Executors: a program at work on one board of a service.

A body is given its meaning from the meaning of the tasks it refers to (`evaluate`).  `enter` ties
the knot: it keeps the chain of tasks that are under way and refuses a task that is on the chain
already, so the tasks of the program that are not on the chain become fewer with every task entered
and every run ends.
-/
namespace Kanban

/-- How a task is begun: afresh, or with the pipeline that the step before it left. -/
inductive Entrance where
  | fresh
  | continuing (pipeline : Pipeline)

/-- The pipeline that a task begins with; a fresh start is announced. -/
def Entrance.begin (entrance : Entrance) (name : String) : Run σ Pipeline :=
  match entrance with
  | .fresh => do
      Run.info s!"Starting task {name}"
      return .start
  | .continuing pipeline => return pipeline

structure Executor (σ : Type) where
  program : Program
  service : Service σ
  board : Tree
  limit : DepthLimit

namespace Executor

def start (program : Program) (service : Service σ) (limit : DepthLimit := .standard) :
    Run σ (Executor σ) := do
  match ← service.findBoard (.text program.board) with
  | some found => return { program, service, board := found.id, limit }
  | none => Run.trouble (.boardMissing program.board)

def column (executor : Executor σ) (name : String) : Run σ Column := do
  match ← executor.service.findColumn executor.board (.text name) with
  | some found => return found
  | none => Run.trouble (.columnMissing name)

def pipeCards (pipeline : Pipeline) : Run σ (List Card) :=
  Run.ofExcept .ofRun pipeline.cards

def fetch (executor : Executor σ) (source : Source) (pipeline : Pipeline) :
    Run σ (List Card) :=
  match source with
  | .pipe => pipeCards pipeline
  | .board => Run.ask (executor.service.cards executor.board)
  | .column name => do
      let found ← executor.column name
      Run.ask (executor.service.cardsIn found.id)

def sourceCards (executor : Executor σ) (source : Source) (pipeline : Pipeline) :
    Run σ (List Card) := do
  let cards ← executor.fetch source pipeline
  Run.debug s!"Taken {cards.length} cards from {source.shown}"
  return cards

/-- Positions in ascending order; one that is no number has no place in it, so the order depends on
how it is looked for. -/
def ascending (positions : List Float) : List Float :=
  if positions.all fun x => x == x then
    positions.mergeSort fun x y => !(y < x)
  else
    Id.run (Sorting.sort (fun x y => pure (decide (x < y))) positions)

def midpoint (x y : Float) : Float :=
  (x + y) / 2

def landing (executor : Executor σ) (place : Place) (columnId : Tree) : Run σ (Landing Float) :=
  match place with
  | .top => return .top
  | .bottom => return .bottom
  | .random => do
      let cards ← Run.ask (executor.service.cardsIn columnId)
      let positions := ascending (cards.map (·.position))
      let slot ← Run.draw fun draws => draws.below (positions.length + 1)
      return .inGap midpoint positions slot

def position : Landing Float → Tree
  | .top => .text "top"
  | .bottom => .text "bottom"
  | .at number => .real number

/-- The cards at the drawn indices, in the order of the draws. -/
def pick (cards : List Card) (indices : List Nat) : List Card :=
  indices.filterMap (cards[·]?)

def take (executor : Executor σ) (source : Source) (size : Nat) (place : Place)
    (pipeline : Pipeline) : Run σ Pipeline := do
  let cards ← executor.sourceCards source pipeline
  let total := cards.length
  if 0 < size ∧ size < total then
    Run.debug s!"Cutting {total} cards to {size} from {place.word}"
    match place with
    | .top => return .holding (cards.take size)
    | .bottom => return .holding (cards.drop (total - size))
    | .random => do
        let indices ← Run.draw fun draws => draws.distinct total size
        return .holding (pick cards indices)
  else
    return .holding cards

def nameAtMost (left right : Card) : Bool :=
  match left.name, right.name with
  | .text s, .text t => Text.atMost s t
  | _, _ => true

/-- The cards in the order of their names.  Names that are no texts are taken as they come, and two
of them may have no order. -/
def sortByName (cards : List Card) : Except Misuse (List Card) :=
  if cards.all (·.name.isText) then
    .ok (cards.mergeSort nameAtMost)
  else
    Sorting.sort (fun left right => left.name.less right.name) cards

def order (executor : Executor σ) (kind : OrderKind) (source : Source) (pipeline : Pipeline) :
    Run σ Pipeline := do
  let cards ← executor.sourceCards source pipeline
  Run.debug s!"Ordering {cards.length} cards by {kind.word}"
  match kind with
  | .shuffle => return .holding (← Run.draw fun draws => draws.shuffle cards)
  | .sort => return .holding (← Run.ofExcept .misuse (sortByName cards))
  | .reverse => return .holding cards.reverse

def keepFolded (wanted : String) : List Card → Except Misuse (List Card)
  | [] => .ok []
  | card :: rest => do
      let name ← Service.folded card.name
      let kept ← keepFolded wanted rest
      return if name = wanted then card :: kept else kept

def keepNamed (value : String) (caseSensitive : Bool) (cards : List Card) :
    Except Misuse (List Card) :=
  if caseSensitive then
    .ok (cards.filter fun card => card.name.same (.text value))
  else
    keepFolded (Text.caseFold value) cards

def keepLabelled (label : Label) (cards : List Card) : List Card :=
  cards.filter fun card => card.labelIds.any fun id => label.id.same id

def select (executor : Executor σ) (criterion : FilterBy) (value : String) (caseSensitive : Bool)
    (cards : List Card) : Run σ (List Card) :=
  match criterion with
  | .name => Run.ofExcept .misuse (keepNamed value caseSensitive cards)
  | .label => do
      match ← executor.service.findLabel executor.board (.text value) caseSensitive with
      | some label => return keepLabelled label cards
      | none => Run.trouble (.labelMissing value)

def filter (executor : Executor σ) (criterion : FilterBy) (value : String) (caseSensitive : Bool)
    (pipeline : Pipeline) : Run σ Pipeline := do
  let cards ← pipeCards pipeline
  let kept ← executor.select criterion value caseSensitive cards
  let count := s!"kept {kept.length} of {cards.length}"
  Run.debug s!"Filter by {criterion.word}={Text.quoted value} {count}"
  return .holding kept

def printLine (card : Card) : Event :=
  .info (Text.trimmedEnd s!"card: {card.name.shown} {card.shortUrl.shown}")

def copyCards (executor : Executor σ) (target : Column) (place : Place) :
    List Card → Run σ Unit
  | [] => return
  | card :: rest => do
      let landing ← executor.landing place target.id
      let draft : Draft :=
        { column := target.id, name := card.name, position := position landing, source := card.id }
      let _ ← Run.ask (executor.service.create draft)
      executor.copyCards target place rest

def moveCards (executor : Executor σ) (target : Column) (place : Place) :
    List Card → Run σ Unit
  | [] => return
  | card :: rest => do
      let landing ← executor.landing place target.id
      let _ ← Run.ask (executor.service.move card.id target.id (position landing))
      executor.moveCards target place rest

def act (executor : Executor σ) (action : Action) (pipeline : Pipeline) : Run σ Pipeline :=
  match action with
  | .print => do
      let cards ← pipeCards pipeline
      Run.emit (cards.map printLine)
      return pipeline
  | .copy target => do
      let column ← executor.column target.column
      let cards ← pipeCards pipeline
      Run.info s!"Copy {cards.length} cards to {column.name.shown}"
      executor.copyCards column target.place cards
      return .finished
  | .move target => do
      let column ← executor.column target.column
      let cards ← pipeCards pipeline
      Run.info s!"Move {cards.length} cards to {column.name.shown}"
      executor.moveCards column target.place cards
      return .finished
  | .add target card => do
      let column ← executor.column target.column
      Run.info s!"Adding card '{card.name}' to {column.name.shown}"
      let landing ← executor.landing target.place column.id
      let draft : Draft :=
        { column := column.id, name := .text card.name, position := position landing
          description := .text card.description }
      let _ ← Run.ask (executor.service.create draft)
      return .finished

/-- Performs steps one after the other.  What a step begins with may depend on the pipeline that the
step before it left. -/
def inTurn (perform : Entrance → String → Run σ Pipeline) (announce : String → String)
    (entrance : Pipeline → Entrance) : List String → Pipeline → Run σ Pipeline
  | [], pipeline => return pipeline
  | step :: rest, pipeline => do
      Run.info (announce step)
      let next ← perform (entrance pipeline) step
      inTurn perform announce entrance rest next

def flow (perform : Entrance → String → Run σ Pipeline) (steps : List String)
    (pipeline : Pipeline) : Run σ Pipeline :=
  inTurn perform (fun step => s!"Execute a step: {step}") .continuing steps pipeline

def group (perform : Entrance → String → Run σ Pipeline) (steps : List String) :
    Run σ Pipeline := do
  let _ ← inTurn perform (fun step => s!"Execute a group member: {step}") (fun _ => .fresh) steps
    .start
  return .finished

/-- The meaning of a body, given the meaning of the tasks that it refers to. -/
def evaluate (executor : Executor σ) (perform : Entrance → String → Run σ Pipeline) :
    Body → Pipeline → Run σ Pipeline
  | .take source size place, pipeline => executor.take source size place pipeline
  | .order kind source, pipeline => executor.order kind source pipeline
  | .filter criterion value caseSensitive, pipeline =>
      executor.filter criterion value caseSensitive pipeline
  | .act action, pipeline => executor.act action pipeline
  | .group steps, _ => group perform steps
  | .flow steps, pipeline => flow perform steps pipeline

/-- The tasks of the program that are not under way. -/
def idle (program : Program) (underWay : List String) : List String :=
  program.tableNames.filter (· ∉ underWay)

theorem idle_shrinks {program : Program} {underWay : List String} {name : String}
    (defined : name ∈ program.tableNames) (absent : name ∉ underWay) :
    (idle program (underWay ++ [name])).length < (idle program underWay).length := by
  have split : idle program (underWay ++ [name]) =
      (idle program underWay).filter (· ≠ name) := by
    simp only [idle, List.filter_filter]
    congr 1
    funext other
    simp [Bool.and_comm, not_or]
  rw [split]
  exact List.length_filter_lt_length_iff_exists.mpr
    ⟨name, List.mem_filter.mpr ⟨defined, by simpa using absent⟩, by simp⟩

/-- Runs one task inside the tasks that are under way, the outermost of them first. -/
def enter (executor : Executor σ) (underWay : List String) (entrance : Entrance) (name : String) :
    Run σ Pipeline :=
  match _found : executor.program.body? name with
  | none => Run.trouble (.taskMissing name)
  | some body => do
      let pipeline ← entrance.begin name
      if _inside : name ∈ underWay then
        Run.trouble (.selfReference name underWay)
      else
        match executor.limit.reachedAt? underWay.length with
        | none => Run.misuse .wrongKind
        | some true => Run.fail (.tooDeep executor.limit name)
        | some false => executor.evaluate (executor.enter (underWay ++ [name])) body pipeline
termination_by (idle executor.program underWay).length
decreasing_by exact idle_shrinks (Program.body?_mem _found) _inside

theorem enter_missing (executor : Executor σ) {underWay : List String} {entrance : Entrance}
    {name : String} (missing : executor.program.body? name = none) :
    executor.enter underWay entrance name = Run.trouble (.taskMissing name) := by
  rw [enter]
  split
  next => rfl
  next found => simp [missing] at found

theorem enter_found (executor : Executor σ) {underWay : List String} {entrance : Entrance}
    {name : String} {body : Body} (found : executor.program.body? name = some body) :
    executor.enter underWay entrance name = (do
      let pipeline ← entrance.begin name
      if name ∈ underWay then
        Run.trouble (.selfReference name underWay)
      else
        match executor.limit.reachedAt? underWay.length with
        | none => Run.misuse .wrongKind
        | some true => Run.fail (.tooDeep executor.limit name)
        | some false =>
            executor.evaluate (executor.enter (underWay ++ [name])) body pipeline) := by
  rw [enter]
  split
  next missing => simp [found] at missing
  next other same =>
    rw [found] at same
    cases same
    rfl

def run (executor : Executor σ) (name : String) : Run σ Pipeline :=
  executor.enter [] .fresh name

/-- Runs the task that a value names; lists and mappings cannot name anything. -/
def runNamed (executor : Executor σ) (name : Tree) : Run σ Pipeline :=
  match name with
  | .text name => executor.run name
  | other =>
      if other.canBeKey then Run.trouble (.taskMissing other.shown) else Run.misuse .wrongKind

def tasks (executor : Executor σ) : List String :=
  executor.program.names

end Executor

end Kanban
