import Kanban.Executor
import Kanban.Proofs.Run.Alike

namespace Kanban

def Body.writes : Body → Bool
  | act (.copy _) | act (.move _) | act (.add ..) => true
  | _ => false

def Body.draws : Body → Bool
  | take _ _ place => place = .random
  | order kind _ => kind = .shuffle
  | act (.copy target) | act (.move target) | act (.add target _) => target.place = .random
  | _ => false

namespace Executor

inductive Fault : Failure → Prop where
  | columnMissing (name : String) : Fault (.ofRun (.columnMissing name))
  | labelMissing (name : String) : Fault (.ofRun (.labelMissing name))
  | noPipe (phase : Phase) : Fault (.ofRun (.noPipe phase))
  | misuse (cause : Misuse) : Fault (.misuse cause)

def withService (executor : Executor σ) (service : Service τ) : Executor τ where
  program := executor.program
  service := service
  board := executor.board
  limit := executor.limit

@[simp] theorem withService_program (executor : Executor σ) (service : Service τ) :
    (executor.withService service).program = executor.program := rfl

@[simp] theorem withService_limit (executor : Executor σ) (service : Service τ) :
    (executor.withService service).limit = executor.limit := rfl

section

variable (executor : Executor σ) (other : Service τ) {licence : Licence}
  {perform : Entrance → String → Run σ Pipeline}
  {follow : Entrance → String → Run τ Pipeline}

theorem landing_alike (place : Place) (column : Tree) (draws : place = .random → licence.draws) :
    Run.Alike licence executor.service other (executor.landing place column)
      ((executor.withService other).landing place column) := by
  cases place with
  | top => exact .pure _
  | bottom => exact .pure _
  | random =>
      exact .bind (.ask (.cardsIn column) nofun) fun cards =>
        .bind (.draw (fun draws => draws.below_movesOn _) (draws rfl)) fun slot => .pure _

theorem copyCards_alike (target : Column) (place : Place) (cards : List Card)
    (writes : licence.writes) (draws : place = .random → licence.draws) :
    Run.Alike licence executor.service other (executor.copyCards target place cards)
      ((executor.withService other).copyCards target place cards) := by
  induction cards with
  | nil => exact .pure _
  | cons card rest ih =>
      exact .bind (landing_alike executor other place target.id draws) fun landing =>
        .bind (.create _ writes) fun _ => ih

theorem moveCards_alike (target : Column) (place : Place) (cards : List Card)
    (writes : licence.writes) (draws : place = .random → licence.draws) :
    Run.Alike licence executor.service other (executor.moveCards target place cards)
      ((executor.withService other).moveCards target place cards) := by
  induction cards with
  | nil => exact .pure _
  | cons card rest ih =>
      exact .bind (landing_alike executor other place target.id draws) fun landing =>
        .bind (.move _ _ _ writes) fun _ => ih

theorem inTurn_alike {announce : String → String} {entrance : Pipeline → Entrance}
    (steps : List String) (pipeline : Pipeline)
    (alike : ∀ entrance, ∀ step ∈ steps,
      Run.Alike licence executor.service other (perform entrance step) (follow entrance step)) :
    Run.Alike licence executor.service other (inTurn perform announce entrance steps pipeline)
      (inTurn follow announce entrance steps pipeline) := by
  induction steps generalizing pipeline with
  | nil => exact .pure _
  | cons step rest ih =>
      exact .bind (.info _) fun _ => .bind (alike _ step (by simp)) fun next =>
        ih next fun entrance later member => alike entrance later (by simp [member])

variable (faults : ∀ failure, Fault failure → licence.fails failure)
include faults

theorem column_alike (name : String) :
    Run.Alike licence executor.service other (executor.column name)
      ((executor.withService other).column name) := by
  refine .bind (.bind (.ask (.columns executor.board) nofun) fun columns => .pure _) fun found => ?_
  cases found with
  | some column => exact .pure column
  | none => exact .fail (faults _ (.columnMissing name))

theorem pipeCards_alike (pipeline : Pipeline) :
    Run.Alike licence executor.service other (pipeCards pipeline) (pipeCards pipeline) := by
  refine .ofExcept _ _ fun cause absent => faults _ ?_
  unfold Pipeline.cards at absent
  split at absent
  · cases absent
  · cases absent
    exact .noPipe _

theorem fetch_alike (source : Source) (pipeline : Pipeline) :
    Run.Alike licence executor.service other (executor.fetch source pipeline)
      ((executor.withService other).fetch source pipeline) := by
  cases source with
  | pipe => exact pipeCards_alike executor other faults pipeline
  | board => exact .ask (.cards executor.board) nofun
  | column name =>
      exact .bind (column_alike executor other faults name) fun found =>
        .ask (.cardsIn found.id) nofun

theorem sourceCards_alike (source : Source) (pipeline : Pipeline) :
    Run.Alike licence executor.service other (executor.sourceCards source pipeline)
      ((executor.withService other).sourceCards source pipeline) :=
  .bind (fetch_alike executor other faults source pipeline) fun _ =>
    .bind (.debug _) fun _ => .pure _

theorem take_alike (source : Source) (size : Nat) (place : Place) (pipeline : Pipeline)
    (draws : place = .random → licence.draws) :
    Run.Alike licence executor.service other (executor.take source size place pipeline)
      ((executor.withService other).take source size place pipeline) := by
  refine .bind (sourceCards_alike executor other faults source pipeline) fun cards => ?_
  dsimp only
  split
  · refine .bind (.debug _) fun _ => ?_
    cases place with
    | top => exact .pure _
    | bottom => exact .pure _
    | random =>
        exact .bind (.draw (fun draws => draws.distinct_movesOn _ _) (draws rfl)) fun indices =>
          .pure _
  · exact .pure _

theorem order_alike (kind : OrderKind) (source : Source) (pipeline : Pipeline)
    (draws : kind = .shuffle → licence.draws) :
    Run.Alike licence executor.service other (executor.order kind source pipeline)
      ((executor.withService other).order kind source pipeline) := by
  refine .bind (sourceCards_alike executor other faults source pipeline) fun cards =>
    .bind (.debug _) fun _ => ?_
  cases kind with
  | shuffle =>
      exact .bind (.draw (fun draws => draws.shuffle_movesOn _) (draws rfl)) fun shuffled => .pure _
  | sort =>
      exact .bind (.ofExcept _ _ fun cause _ => faults _ (.misuse cause)) fun sorted => .pure _
  | reverse => exact .pure _

theorem select_alike (criterion : FilterBy) (value : String) (caseSensitive : Bool)
    (cards : List Card) :
    Run.Alike licence executor.service other (executor.select criterion value caseSensitive cards)
      ((executor.withService other).select criterion value caseSensitive cards) := by
  cases criterion with
  | name => exact .ofExcept _ _ fun cause _ => faults _ (.misuse cause)
  | label =>
      refine .bind (.bind (.ask (.labels executor.board) nofun) fun labels =>
        .ofExcept _ _ fun cause _ => faults _ (.misuse cause)) fun found => ?_
      cases found with
      | some label => exact .pure _
      | none => exact .fail (faults _ (.labelMissing value))

theorem filter_alike (criterion : FilterBy) (value : String) (caseSensitive : Bool)
    (pipeline : Pipeline) :
    Run.Alike licence executor.service other
      (executor.filter criterion value caseSensitive pipeline)
      ((executor.withService other).filter criterion value caseSensitive pipeline) :=
  .bind (pipeCards_alike executor other faults pipeline) fun cards =>
    .bind (select_alike executor other faults criterion value caseSensitive cards) fun _ =>
    .bind (.debug _) fun _ => .pure _

theorem act_alike (action : Action) (pipeline : Pipeline)
    (writes : (Body.act action).writes → licence.writes)
    (draws : (Body.act action).draws → licence.draws) :
    Run.Alike licence executor.service other (executor.act action pipeline)
      ((executor.withService other).act action pipeline) := by
  cases action with
  | print =>
      exact .bind (pipeCards_alike executor other faults pipeline) fun cards =>
        .bind (.emit (by simp [printLine, Event.info, Event.isLog])) fun _ => .pure _
  | copy target =>
      exact .bind (column_alike executor other faults target.column) fun column =>
        .bind (pipeCards_alike executor other faults pipeline) fun cards =>
        .bind (.info _) fun _ =>
        .bind (copyCards_alike executor other column target.place cards (writes rfl)
          fun random => draws (by simp [Body.draws, random])) fun _ => .pure _
  | move target =>
      exact .bind (column_alike executor other faults target.column) fun column =>
        .bind (pipeCards_alike executor other faults pipeline) fun cards =>
        .bind (.info _) fun _ =>
        .bind (moveCards_alike executor other column target.place cards (writes rfl)
          fun random => draws (by simp [Body.draws, random])) fun _ => .pure _
  | add target card =>
      exact .bind (column_alike executor other faults target.column) fun column =>
        .bind (.info _) fun _ =>
        .bind (landing_alike executor other target.place column.id
          fun random => draws (by simp [Body.draws, random])) fun landing =>
        .bind (.create _ (writes rfl)) fun _ => .pure _

theorem evaluate_alike (body : Body) (pipeline : Pipeline)
    (writes : body.writes → licence.writes) (draws : body.draws → licence.draws)
    (alike : ∀ entrance, ∀ step ∈ body.references,
      Run.Alike licence executor.service other (perform entrance step) (follow entrance step)) :
    Run.Alike licence executor.service other (executor.evaluate perform body pipeline)
      ((executor.withService other).evaluate follow body pipeline) := by
  cases body with
  | take source size place =>
      exact take_alike executor other faults source size place pipeline fun random =>
        draws (by simp [Body.draws, random])
  | order kind source =>
      exact order_alike executor other faults kind source pipeline fun shuffle =>
        draws (by simp [Body.draws, shuffle])
  | filter criterion value caseSensitive =>
      exact filter_alike executor other faults criterion value caseSensitive pipeline
  | act action => exact act_alike executor other faults action pipeline writes draws
  | group steps => exact .bind (inTurn_alike executor other steps .start alike) fun _ => .pure _
  | flow steps => exact inTurn_alike executor other steps pipeline alike

end

theorem leaf_alike (executor : Executor σ) (perform : Entrance → String → Run σ Pipeline)
    {body : Body} (leaf : body.references = []) (pipeline : Pipeline) :
    Run.Alike ⟨Fault, True, True⟩ executor.service executor.service
      (executor.evaluate perform body pipeline) (executor.evaluate perform body pipeline) :=
  evaluate_alike executor executor.service (fun _ fault => fault) body pipeline
    (fun _ => trivial) (fun _ => trivial) (by simp [leaf])

end Executor

end Kanban
