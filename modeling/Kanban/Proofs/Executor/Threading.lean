import Kanban.Proofs.Executor.Filtering
import Kanban.Proofs.Executor.Meaning

namespace Kanban

namespace Run

/-- From this world the run gives this value, and all that it does to the service is to read. -/
structure Observes (service : Service σ) (run : Run σ α) (world : World σ) (value : α) : Prop where
  result : (run world).1 = .ok value
  reads : ∃ events, (run world).2.trace = world.trace ++ events ∧
    service.ReadsTo world.service events (run world).2.service

theorem Observes.unique {service : Service σ} {run : Run σ α} {world : World σ} {value other : α}
    (observes : run.Observes service world value) (again : run.Observes service world other) :
    other = value :=
  Except.ok.inj (again.result.symm.trans observes.result)

def Always (run : Run σ α) (value : α) : Prop :=
  ∀ world, (run world).1 = .ok value

namespace Always

theorem pure (value : α) : (Pure.pure value : Run σ α).Always value :=
  fun _ => rfl

theorem emit (events : List Event) : (Run.emit events : Run σ Unit).Always () :=
  fun _ => rfl

theorem onward {first : Run σ α} {next : α → Run σ β} {value : α} {result : β}
    {world between : World σ} (begun : first world = (.ok value, between))
    (always : (next value).Always result) : ((first >>= next) world).1 = .ok result := by
  rw [bind_of_ok begun]
  exact always between

theorem bind {first : Run σ α} {next : α → Run σ β} {value : α} {result : β}
    (begins : first.Always value) (always : (next value).Always result) :
    (first >>= next).Always result :=
  fun world => onward (Prod.ext (begins world) rfl) always

end Always

end Run

namespace Executor

variable {executor : Executor σ} {underWay : List String} {steps : List (String × Body)}

structure ReadyToRead (executor : Executor σ) (underWay : List String) (step : String × Body) : Prop
    extends executor.Ready underWay step.1 step.2 where
  leaf : step.2.references = []
  reads : step.2.writes = false

/-- The bodies of steps, each at work on the pipeline that the one before it left. -/
def inSuccession (executor : Executor σ) (underWay : List String) (steps : List (String × Body))
    (pipeline : Pipeline) : Run σ Pipeline :=
  steps.foldlM (fun current step =>
    executor.evaluate (executor.enter (underWay ++ [step.1])) step.2 current) pipeline

theorem Ready.enter_eq {name : String} {body : Body} (ready : executor.Ready underWay name body)
    (pipeline : Pipeline) :
    executor.enter underWay (.continuing pipeline) name =
      executor.evaluate (executor.enter (underWay ++ [name])) body pipeline :=
  funext fun _ => executor.enter_evaluates ready.defined rfl ready.outside ready.free

theorem flow_sameWork (ready : ∀ step ∈ steps, executor.ReadyToRead underWay step)
    (pipeline : Pipeline) :
    (flow (executor.enter underWay) (steps.map (·.1)) pipeline).SameWork
      (executor.inSuccession underWay steps pipeline) := by
  unfold flow inSuccession
  induction steps generalizing pipeline with
  | nil => exact fun world twin agrees => ⟨rfl, agrees⟩
  | cons step rest ih =>
      have here := ready step List.mem_cons_self
      rw [List.foldlM_cons]
      apply Run.SameWork.emit_first (by simp [Event.info, Event.isLog])
      rw [here.enter_eq]
      refine Run.SameWork.bind (.of_alike (leaf_alike executor _ here.leaf pipeline)) fun next => ?_
      exact ih (fun later member => ready later (List.mem_cons_of_mem _ member)) next

def looking : Licence where
  fails := Refusal
  writes := False
  draws := True

theorem ReadyToRead.enter_alike {step : String × Body} (ready : executor.ReadyToRead underWay step)
    (entrance : Entrance) :
    Run.Alike looking executor.service executor.service (executor.enter underWay entrance step.1)
      (executor.enter underWay entrance step.1) := by
  refine executor.enter_alike executor.service (fun _ refusal => refusal) underWay entrance
    step.1 ?_
  intro reached body reaches found
  -- The body refers to nothing, so no other task is reached from it.
  have alone : reached = step.1 := by
    cases reaches.cases_head with
    | inl same => exact same.symm
    | inr onward =>
        obtain ⟨next, reference, _⟩ := onward
        rw [Program.references_of_body ready.defined, ready.leaf] at reference
        cases reference
  subst alone
  have same : step.2 = body := Option.some.inj (ready.defined.symm.trans found)
  subst same
  exact ⟨fun writes => absurd (ready.reads.symm.trans writes) (by decide), fun _ => trivial⟩

theorem flow_alike (ready : ∀ step ∈ steps, executor.ReadyToRead underWay step)
    (pipeline : Pipeline) :
    Run.Alike looking executor.service executor.service
      (flow (executor.enter underWay) (steps.map (·.1)) pipeline)
      (flow (executor.enter underWay) (steps.map (·.1)) pipeline) := by
  apply inTurn_alike executor executor.service (steps.map (·.1)) pipeline
  intro entrance name member
  obtain ⟨step, inside, rfl⟩ := List.mem_map.mp member
  exact (ready step inside).enter_alike entrance

theorem flow_observes (steps : List (String × Body))
    (ready : ∀ step ∈ steps, executor.ReadyToRead underWay step)
    {pipeline result : Pipeline} {world : World σ}
    (done : (executor.inSuccession underWay steps pipeline world).1 = .ok result) :
    (executor.evaluate (executor.enter underWay) (.flow (steps.map (·.1))) pipeline).Observes
      executor.service world result where
  result := (flow_sameWork ready pipeline world world (.refl world)).1.trans done
  reads := (flow_alike ready pipeline).reads id world

end Executor

end Kanban
