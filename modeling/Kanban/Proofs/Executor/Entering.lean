import Kanban.Proofs.Executor.Alike
import Kanban.Proofs.Program.Chain

namespace Kanban

theorem Failure.tooDeep_trouble {limit : DepthLimit} {name : String} {trouble : Trouble}
    (raised : Failure.tooDeep limit name = .trouble trouble) :
    trouble = .run (.tooDeep limit name) := by
  cases limit with
  | levels count => exact (Failure.trouble.inj raised).symm
  | other value =>
      unfold Failure.tooDeep Failure.showing at raised
      dsimp only at raised
      split at raised
      · exact (Failure.trouble.inj raised).symm
      · cases raised

namespace Entrance

def pipeline : Entrance → Pipeline
  | fresh => .start
  | continuing pipeline => pipeline

def announcement (entrance : Entrance) (name : String) : List Event :=
  match entrance with
  | fresh => [.info s!"Starting task {name}"]
  | continuing _ => []

theorem begin_apply (entrance : Entrance) (name : String) (world : World σ) :
    entrance.begin name world =
      (.ok entrance.pipeline,
        { world with trace := world.trace ++ entrance.announcement name }) := by
  cases entrance with
  | fresh => rfl
  | continuing pipeline => simp [begin, announcement, Entrance.pipeline]

theorem begin_service {entrance : Entrance} {name : String} {world begun : World σ}
    {pipeline : Pipeline} (begins : entrance.begin name world = (.ok pipeline, begun)) :
    begun.service = world.service := by
  rw [begin_apply] at begins
  cases begins
  rfl

end Entrance

namespace Executor

/-- The ways in which a task can be entered, each with what it comes to. -/
inductive Entering (executor : Executor σ) (underWay : List String) (entrance : Entrance)
    (name : String) (world : World σ) : Except Failure Pipeline × World σ → Prop where
  | missing :
      executor.program.body? name = none →
      Entering executor underWay entrance name world (.error (.ofRun (.taskMissing name)), world)
  | repeated {body : Body} {begun : World σ} :
      executor.program.body? name = some body →
      entrance.begin name world = (.ok entrance.pipeline, begun) → name ∈ underWay →
      Entering executor underWay entrance name world
        (.error (.ofRun (.selfReference name underWay)), begun)
  | incomparable {body : Body} {begun : World σ} :
      executor.program.body? name = some body →
      entrance.begin name world = (.ok entrance.pipeline, begun) → name ∉ underWay →
      executor.limit.reachedAt? underWay.length = none →
      Entering executor underWay entrance name world (.error (.misuse .wrongKind), begun)
  | tooDeep {body : Body} {begun : World σ} :
      executor.program.body? name = some body →
      entrance.begin name world = (.ok entrance.pipeline, begun) → name ∉ underWay →
      executor.limit.reachedAt? underWay.length = some true →
      Entering executor underWay entrance name world
        (.error (.tooDeep executor.limit name), begun)
  | evaluated {body : Body} {begun : World σ} :
      executor.program.body? name = some body →
      entrance.begin name world = (.ok entrance.pipeline, begun) → name ∉ underWay →
      executor.limit.reachedAt? underWay.length = some false →
      Entering executor underWay entrance name world
        (executor.evaluate (executor.enter (underWay ++ [name])) body entrance.pipeline begun)

theorem enter_evaluates (executor : Executor σ) {underWay : List String} {entrance : Entrance}
    {name : String} {body : Body} {world begun : World σ}
    (found : executor.program.body? name = some body)
    (begins : entrance.begin name world = (.ok entrance.pipeline, begun))
    (outside : name ∉ underWay)
    (free : executor.limit.reachedAt? underWay.length = some false) :
    executor.enter underWay entrance name world =
      executor.evaluate (executor.enter (underWay ++ [name])) body entrance.pipeline begun := by
  rw [executor.enter_found found, Run.bind_of_ok begins, if_neg outside, free]

theorem enter_entering (executor : Executor σ) (underWay : List String) (entrance : Entrance)
    (name : String) (world : World σ) :
    executor.Entering underWay entrance name world
      (executor.enter underWay entrance name world) := by
  cases found : executor.program.body? name with
  | none =>
      rw [executor.enter_missing found]
      exact .missing found
  | some body =>
      have begun := entrance.begin_apply name world
      rw [executor.enter_found found, Run.bind_of_ok begun]
      split
      next inside => exact .repeated found begun inside
      next outside =>
        cases reached : executor.limit.reachedAt? underWay.length with
        | none => exact .incomparable found begun outside reached
        | some full =>
            cases full with
            | true => exact .tooDeep found begun outside reached
            | false => exact .evaluated found begun outside reached

inductive Refusal : Failure → Prop where
  | fault {failure : Failure} : Fault failure → Refusal failure
  | taskMissing (name : String) : Refusal (.ofRun (.taskMissing name))
  | selfReference (name : String) (underWay : List String) :
      Refusal (.ofRun (.selfReference name underWay))
  | tooDeep (limit : DepthLimit) (name : String) : Refusal (.tooDeep limit name)

theorem enter_returned {executor : Executor σ} {underWay : List String} {entrance : Entrance}
    {name : String} {world later : World σ} {pipeline : Pipeline}
    (returned : executor.enter underWay entrance name world = (.ok pipeline, later)) :
    ∃ body begun, executor.program.body? name = some body ∧
      entrance.begin name world = (.ok entrance.pipeline, begun) ∧ name ∉ underWay ∧
      executor.limit.reachedAt? underWay.length = some false ∧
      executor.evaluate (executor.enter (underWay ++ [name])) body entrance.pipeline begun =
        (.ok pipeline, later) := by
  have entering := executor.enter_entering underWay entrance name world
  generalize executor.enter underWay entrance name world = ended at entering returned
  cases entering with
  | missing | repeated | incomparable | tooDeep => cases returned
  | evaluated found begun outside free => exact ⟨_, _, found, begun, outside, free, returned⟩

theorem enter_alike (executor : Executor σ) (other : Service τ) {licence : Licence}
    (refusals : ∀ failure, Refusal failure → licence.fails failure) (underWay : List String)
    (entrance : Entrance) (name : String)
    (within : ∀ reached body, executor.program.Reaches name reached →
      executor.program.body? reached = some body →
      (body.writes → licence.writes) ∧ (body.draws → licence.draws)) :
    Run.Alike licence executor.service other (executor.enter underWay entrance name)
      ((executor.withService other).enter underWay entrance name) := by
  induction underWay, entrance, name using enter.induct executor with
  | case1 underWay entrance name missing =>
      rw [executor.enter_missing missing, (executor.withService other).enter_missing missing]
      exact .fail (refusals _ (.taskMissing name))
  | case2 underWay entrance name body found ih =>
      rw [executor.enter_found found, (executor.withService other).enter_found found]
      refine .bind ?_ fun pipeline => ?_
      · cases entrance with
        | fresh => exact .bind (.info _) fun _ => .pure _
        | continuing pipeline => exact .pure _
      · split
        next => exact .fail (refusals _ (.selfReference name underWay))
        next outside =>
          rw [withService_limit]
          split
          next => exact .fail (refusals _ (.fault (.misuse .wrongKind)))
          next => exact .fail (refusals _ (.tooDeep executor.limit name))
          next =>
            obtain ⟨writes, draws⟩ := within name body .refl found
            have faults failure (fault : Fault failure) := refusals failure (.fault fault)
            refine evaluate_alike executor other faults body pipeline writes draws
              fun entrance step member => ih outside entrance step ?_
            intro reached body onward
            refine within reached body (.of_reference ?_ onward)
            rwa [Program.references_of_body found]

theorem enter_freely (executor : Executor σ) (other : Service τ) (underWay : List String)
    (entrance : Entrance) (name : String) :
    Run.Alike .free executor.service other (executor.enter underWay entrance name)
      ((executor.withService other).enter underWay entrance name) :=
  executor.enter_alike other (fun _ _ => trivial) underWay entrance name fun _ _ _ _ =>
    ⟨fun _ => trivial, fun _ => trivial⟩

end Executor

end Kanban
